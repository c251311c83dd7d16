import FatVolume.Boot.Sector
import FatVolume.Label
import FatVolume.Layout.Basic
import FatVolume.Layout.Search
import FatVolume.Volume

/-!
# Formatting

A request describes one format. What it leaves open is derived from the device. `Request.validate`
checks all that can be checked without a device, in a fixed order.

A format is planned first and written after that. A plan holds the whole volume in memory; making
it reads the device at most, so nothing is written unless the request is valid, a layout exists and
the defects of the device can be handled.
-/

namespace FatVolume

/-- What is asked of a format. -/
structure Request where
  /-- Width of the table. -/
  width : Option Width := none
  /-- Sector size, which must be that of the device. -/
  sectorSize : Option UInt32 := none
  /-- Sectors of a cluster. -/
  clusterSectors : Option UInt32 := none
  /-- Sectors of the reserved area. -/
  reservedSectors : Option UInt32 := none
  /-- Entries of the root directory. -/
  rootEntries : Option UInt32 := none
  /-- Copies of the table. -/
  tableCount : UInt8 := 2
  /-- Whether areas are to be aligned to clusters. -/
  align : Bool := true
  /-- The label. -/
  label : String := ""
  /-- The volume number. -/
  volumeId : Option UInt32 := none
  /-- The number by which firmware knows the drive. -/
  driveNumber : Option UInt8 := none
  /-- The media descriptor. -/
  media : Option UInt8 := none
  /-- Sectors that precede the volume on its disk. -/
  hiddenSectors : UInt32 := 0
  /-- The type of the medium, in place of what the device reports. -/
  mediaType : Option MediaType := none
  /-- Heads and sectors of a track. -/
  tracks : Option Tracks := none
  /-- The sector of the backup boot sector. -/
  backupSector : Option UInt32 := none
  /-- The boot message. -/
  message : Option (List UInt8) := none
  /-- Whether the device is scanned for bad blocks. -/
  scan : Bool := false
  /-- A list of bad blocks. -/
  badBlocks : Option String := none
  /-- Whether a partition table is written. -/
  partitionTable : Bool := false
  /-- The moment of creation. -/
  created : Option Moment := none
  deriving DecidableEq

namespace Request

/-- Refuse a request for the reason of its configuration. -/
def misconfigured {α : Type} (reason : ConfigurationError) : Guarded Error α :=
  refuse (.configuration reason)

/-- Refuse a request because it has no layout. -/
def unlayable {α : Type} (reason : LayoutError) : Guarded Error α := refuse (.layout reason)

/-- The check of an optional number. -/
def checkSome {α : Type} (x : Option α) (check : α → Guarded Error Unit) : Guarded Error Unit :=
  match x with
  | some a => check a
  | none => pure ()

/-- A field of 16 bits that must not be zero. -/
def IsPositiveField16 (n : Nat) : Prop := n ≠ 0 ∧ n ≤ Layout.maxField16

instance (n : Nat) : Decidable (IsPositiveField16 n) := inferInstanceAs (Decidable (_ ∧ _))

/-- The backup boot sector must lie in the reserved area. -/
def checkBackup (sector : UInt32) (reserved : Region) : Guarded Error Unit := do
  unless reserved.contains sector.toNat do misconfigured (.backupOutside sector.toNat reserved)

/-- Only fixed media take a partition table. -/
def checkPartitionTable (r : Request) (media : MediaType) : Guarded Error Unit := do
  if r.partitionTable ∧ ¬ media.isFixed then misconfigured (.partitionTable media)

/-- The checks of the sizes in a request. -/
def checkSizes (r : Request) : Guarded Error Unit := do
  unless Layout.IsTableCount r.tableCount.toNat do unlayable (.tableCount r.tableCount.toNat)
  checkSome r.sectorSize fun n => do
    unless Layout.IsSectorSize n.toNat do unlayable (.sectorSize n.toNat)
  checkSome r.clusterSectors fun n => do
    unless Layout.IsClusterSize n.toNat do unlayable (.clusterSize n.toNat)
  checkSome r.reservedSectors fun n => do
    unless IsPositiveField16 n.toNat do unlayable (.reservedSectors n.toNat)
  checkSome r.rootEntries fun n => do
    unless IsPositiveField16 n.toNat do misconfigured (.rootEntries n.toNat)
  checkSome r.tracks fun t => do
    unless Chs.IsExpressible t do misconfigured (.tracks t.heads.toNat t.sectors.toNat)

/-- The checks of the place of the backup boot sector. -/
def checkBackupPlace (r : Request) : Guarded Error Unit :=
  checkSome r.backupSector fun sector => do
    if sector.toNat = 0 ∨ sector.toNat = BootSector.infoSectorNumber then
      misconfigured (.backupPlace sector.toNat)
    checkSome r.reservedSectors fun n => do
      checkBackup sector (← Region.initial n.toNat)

/-- The label of a request. -/
def parseLabel (r : Request) : Attempt Error Label := do
  let label ← (orRefuse (Label.parse r.label)).widen Error.label
  Attempt.warn label.warnings
  pure label

/-- Check all that can be checked without a device. -/
def validate (r : Request) : Attempt Error Unit := do
  if r.scan ∧ r.badBlocks.isSome then (misconfigured .scanAndList : Guarded Error Unit)
  r.checkSizes
  r.checkBackupPlace
  checkSome r.mediaType r.checkPartitionTable
  let _ ← r.parseLabel
  checkSome r.badBlocks fun list => do
    let _ ← (orRefuse (BlockList.parse list)).widen Error.list

/-- The geometry of a device as far as the request and a floppy format leave it. -/
def geometry (r : Request) (sectorSize : UInt32) (sectors : UInt64) (f : Option FloppyFormat) :
    Checked Geometry := do
  let g ← Geometry.ofSectors sectorSize sectors
  let customary := (f.map (·.tracks)).getD g.tracks
  pure { g with tracks := r.tracks.getD customary, hiddenSectors := r.hiddenSectors }

/-- What a request and a floppy format ask of the layout. -/
def options (r : Request) (f : Option FloppyFormat) : Layout.Options where
  width := r.width
  rootEntries := (r.rootEntries <|> f.map (·.rootEntries)).getD 512
  clusterSectors := r.clusterSectors
  clusterHint := f.map (·.clusterSectors)
  reservedSectors := r.reservedSectors
  tableCount := r.tableCount
  align := r.align

/-- The sector of the backup boot sector, 0 if there is none. -/
def backup (r : Request) (l : Layout) : Attempt Error UInt16 := do
  if l.width = .fat32 then
    match r.backupSector with
    | some sector => do
      checkBackup sector (← l.reservedRegion)
      pure (UInt16.ofNat sector.toNat)
    | none => do
      match ← backupSector? l.reservedSectors BootSector.infoSectorNumber with
      | some sector => pure (UInt16.ofNat sector)
      | none => do
        Attempt.warn [.noRoomForBackup l.reservedSectors]
        pure 0
  else do
    if r.backupSector.isSome then Attempt.warn [.backupIgnored]
    pure 0

/-- What the volume records of itself, with defaults for what the request leaves open. The stamp of
the label shows the time of the place, while the volume number is derived from universal time. -/
def volumeInfo (r : Request) (label : Label) (media : MediaType) (f : Option FloppyFormat)
    (now : Clock) : VolumeInfo where
  label
  volumeId := r.volumeId.getD (r.created.getD now.universal).volumeId
  driveNumber := r.driveNumber.getD (if media = .floppy then 0x00 else 0x80)
  media := (r.media <|> f.map (·.media)).getD 0xF8
  created := r.created.getD now.wall

end Request

/-- What is told of a finished format. -/
structure Report where
  /-- The layout. -/
  layout : Layout
  /-- The volume number. -/
  volumeId : UInt32
  /-- The label. -/
  label : Label
  /-- Number of bad clusters. -/
  badClusters : Nat
  /-- Number of free clusters. -/
  freeClusters : Nat
  /-- The cluster of the root directory, on FAT32. -/
  rootCluster : Option Nat
  /-- The sector of the backup boot sector, if there is one. -/
  backupSector : Option Nat
  deriving DecidableEq

namespace Report

/-- The report as it is shown. -/
def text (r : Report) : String :=
  r.layout.text ++
  "\nVolume ID             : " ++ Numeral.hexUpper 8 r.volumeId.toNat ++
  "\nLabel                 : " ++ r.label.text ++
  s!"\nBad clusters          : {r.badClusters}" ++
  s!"\nFree clusters         : {r.freeClusters}" ++
  (r.rootCluster.elim "" fun cluster => s!"\nRoot cluster          : {cluster}") ++
  (r.backupSector.elim "" fun sector => s!"\nBackup boot sector    : {sector}")

end Report

/-- A volume that is ready to be written. -/
structure Plan where
  /-- The volume. -/
  volume : FreshVolume
  /-- What the volume records of itself. -/
  info : VolumeInfo
  /-- The sector of the backup boot sector, 0 if there is none. -/
  backup : UInt16
  deriving DecidableEq

namespace Plan

/-- What is told of the plan once it is carried out. -/
def report (p : Plan) : Report where
  layout := p.volume.layout
  volumeId := p.info.volumeId
  label := p.info.label
  badClusters := p.volume.table.badClusters
  freeClusters := p.volume.table.freeClusters
  rootCluster := p.volume.boot.rootCluster
  backupSector := if p.backup = 0 then none else some p.backup.toNat

end Plan

namespace Request

/-- The checks that a request and a device must pass together; the type of the medium. -/
def checkDevice (r : Request) (d : Device) : Guarded Error MediaType := do
  if ¬ d.mediaPresent then misconfigured .noMedium
  if d.readOnly then misconfigured .readOnly
  checkSome r.sectorSize fun n => do
    if n ≠ d.blockSize then misconfigured (.sectorSize n.toNat d.blockSize.toNat)
  let media := r.mediaType.getD d.mediaType
  r.checkPartitionTable media
  pure media

/-- The standard format of a floppy disk of the size of the device. -/
def floppyFormat (d : Device) (media : MediaType) : Checked (Option FloppyFormat) := do
  if media = .floppy then
    let size ← d.sizeBytes
    pure (FloppyFormat.ofSize? size)
  else pure none

/-- The partition table of a volume that spans its disk. -/
def spanningTable (l : Layout) (g : Geometry) (signature : UInt32) : PartitionTable where
  signature
  partition := Partition.spanning (Partition.kindOf l.width l.totalSectors g.tracks) 0
    (UInt32.ofNat l.totalSectors) g.tracks

/-- The boot sector with the message and the partition table of the request. -/
def bootSector (r : Request) (l : Layout) (g : Geometry) (v : VolumeInfo) (backup : UInt16) :
    Attempt Error BootSector := do
  let s := BootSector.fresh l g v backup
  let s ← match r.message with
    | none => pure s
    | some message => do
      Attempt.warn (s.messageWarnings message)
      pure (s.setMessage message)
  if r.partitionTable then
    Attempt.warn s.partitionTableWarnings
    pure (s.setPartitionTable (spanningTable l g v.volumeId))
  else pure s

/-- The sectors that the list of the request names, if there is a list. -/
def listedSectors (r : Request) (l : Layout) : Guarded Error (Option SectorSet) :=
  match r.badBlocks with
  | none => pure none
  | some list => some <$> (BlockList.mark list l).widen Error.list

/-- The bad sectors by list or by scan. -/
def badSectors (r : Request) (d : Device) (l : Layout) (listed : Option SectorSet) :
    Attempt Error SectorSet :=
  match listed with
  | some sectors => pure sectors
  | none => if r.scan then (Scan.sectors d l).widen Error.defect else pure ∅

/-- Make the volume of a request for a device. -/
def plan (r : Request) (d : Device) (now : Clock) : Attempt Error Plan := do
  r.validate
  let media ← r.checkDevice d
  let floppy ← floppyFormat d media
  let g ← r.geometry d.blockSize (UInt64.ofNat d.blockCount) floppy
  let options := r.options floppy
  Attempt.warn (Layout.warnings g options)
  let l ← (Layout.compute g options).widen Error.layout
  if l.width = .fat32 ∧ r.rootEntries.isSome then Attempt.warn [.rootEntriesIgnored]
  let backup ← r.backup l
  let label ← r.parseLabel
  let info := r.volumeInfo label media floppy now
  let boot ← r.bootSector l g info backup
  let listed ← r.listedSectors l
  let fresh ← (FreshVolume.make l boot info).widen Error.table
  let bad ← r.badSectors d l listed
  let (volume, _) ← fresh.markBad bad
  Attempt.warn (fresh.moveWarnings volume)
  pure ⟨volume, info, backup⟩

end Request

/-- Format a device: the report with all warnings, and the device afterwards. -/
def format (d : Device) (r : Request) (now : Clock) : Attempt Error Report × Device :=
  let planned := r.plan d now
  match planned.outcome with
  | .error stop => (⟨planned.warnings, .error stop⟩, d)
  | .ok p =>
    let (result, d) := d.writeVolume p.volume
    (⟨planned.warnings, (Guarded.widen Error.write result).map fun _ => p.report⟩, d)

end FatVolume
