import FatVolume.Boot.Codec
import FatVolume.Error
import FatVolume.Table

/-!
# Fresh volumes

A volume as it is made in memory, before anything is written. Its table, its information sector and
the root cluster in its boot sector depend on each other and change together when clusters turn out
bad. It is written in sections, each at once, and the device is flushed after them. The first section
that fails ends the writing.
-/

namespace FatVolume

/-- A volume without files. -/
structure FreshVolume where
  /-- Places and sizes of the areas. -/
  layout : Layout
  /-- The boot sector. -/
  boot : BootSector
  /-- The information sector, on FAT32. -/
  info : Option InfoSector
  /-- The file allocation table. -/
  table : Table
  /-- The bytes of the root directory. -/
  rootDirectory : ByteArray
  deriving DecidableEq

namespace FreshVolume

/-- The information sector of a table. -/
def infoOf (t : Table) : InfoSector where
  freeClusters := UInt32.ofNat t.freeClusters
  nextFree := match t.firstFree 0 with
    | some cluster => UInt32.ofNat cluster
    | none => InfoSector.unknown

/-- A root directory of so many bytes that holds the label, if the volume has a name. -/
def rootDirectoryOf (bytes : Nat) (v : VolumeInfo) : ByteArray :=
  if v.label ≠ Label.unnamed ∧ directoryEntryBytes ≤ bytes then
    Buffer.ofList (v.label.entry v.created) ++ Buffer.zeros (bytes - directoryEntryBytes)
  else Buffer.zeros bytes

/-- The volume of a layout and its boot sector. On FAT32 the root cluster ends a chain. -/
def make (l : Layout) (boot : BootSector) (v : VolumeInfo) : Guarded TableError FreshVolume := do
  let entries ← l.entryCount
  let blank ← Table.fresh l.width entries v.media
  let rootDirectory := rootDirectoryOf (l.rootWriteSectors * l.sectorSize) v
  match boot.rootCluster with
  | none => pure { layout := l, boot, info := none, table := blank, rootDirectory }
  | some root => do
    let (table, _) ← blank.mark root l.width.endMarker
    pure { layout := l, boot, info := some (infoOf table), table, rootDirectory }

/-- Mark clusters bad, and count those that were not. -/
def markAll (t : Table) (count : Nat) : List Nat → Guarded TableError (Table × Nat)
  | [] => pure (t, count)
  | cluster :: rest => do
    let (t, changed) ← t.mark cluster t.width.badMarker
    markAll t (if changed then count + 1 else count) rest

/-- Give a root directory on a bad cluster the next free cluster. -/
def moveRoot (t : Table) (root : Nat) : Guarded Error (Table × Nat) := do
  if t.isBad root then
    match t.firstFree (root + 1) with
    | none => refuse (.defect (.noRootCluster root))
    | some target => do
      let (t, _) ← (t.mark target t.width.endMarker).widen Error.table
      pure (t, target)
  else pure (t, root)

/-- The information sector after so many more clusters turned out bad. -/
def infoAfter (old : InfoSector) (t : Table) (newlyBad : Nat) : Checked InfoSector := do
  invariant (t.freeClusters = old.freeClusters.toNat - newlyBad)
  pure (infoOf t)

/-- The boot sector with its root directory on another cluster. -/
def withRoot (boot : BootSector) (root : Nat) : BootSector :=
  { boot with fat32 := boot.fat32.map fun e => { e with rootCluster := UInt32.ofNat root } }

/-- Mark the clusters of sectors bad, and count those that were not. A root directory on one of them
moves to the next free cluster. -/
def markBad (v : FreshVolume) (sectors : SectorSet) : Guarded Error (FreshVolume × Nat) := do
  let clusters ← badClusters v.layout sectors
  if clusters.isEmpty then pure (v, 0)
  else
    let (table, newlyBad) ← (markAll v.table 0 clusters.toList).widen Error.table
    let (table, boot) ← match v.boot.rootCluster with
      | none => pure (table, v.boot)
      | some root => do
        let (table, target) ← moveRoot table root
        pure (table, withRoot v.boot target)
    let info ← match v.info with
      | none => pure none
      | some old => some <$> infoAfter old table newlyBad
    pure ({ v with boot, info, table }, newlyBad)

/-- The remarks on a volume in which clusters were marked bad. -/
def moveWarnings (before after : FreshVolume) : List Warning :=
  match before.boot.rootCluster, after.boot.rootCluster with
  | some source, some target => if source = target then [] else [.rootMoved source target]
  | _, _ => []

end FreshVolume

/-- A section with the sector at which it starts and its bytes. -/
structure Placement where
  /-- The section. -/
  part : Section
  /-- Where it starts, and what it holds. -/
  content : Checked (Nat × ByteArray)

namespace FreshVolume

/-- The information sector and the backups of both sectors. -/
def backupPlacements (v : FreshVolume) (boot info : ByteArray) (e : Fat32Extension) :
    List Placement :=
  let backup := e.backupSector.toNat
  let backupInfo := backup + e.infoSector.toNat
  ⟨.infoSector, .ok (e.infoSector.toNat, info)⟩ ::
    if backup = 0 then []
    else ⟨.backupBootSector, .ok (backup, boot)⟩ ::
      match v.layout.reservedRegion with
      | .error fault => [⟨.backupInfoSector, .error fault⟩]
      | .ok reserved =>
        if reserved.contains backupInfo then [⟨.backupInfoSector, .ok (backupInfo, info)⟩] else []

/-- The copies of the table. -/
def tablePlacements (v : FreshVolume) : List Placement :=
  let packed := Buffer.resize v.table.pack v.layout.tableAreaBytes
  (List.range v.layout.tableCount).map fun copy =>
    ⟨.table copy, .ok (v.layout.tableStart copy, packed)⟩

/-- The sections of a volume, in the order in which they are written. -/
def placements (v : FreshVolume) : Checked (List Placement) := do
  let size := v.layout.sectorSize
  let boot := Buffer.ofList (← v.boot.toSector size)
  let special ← match v.info, v.boot.fat32 with
    | some info, some e => do
      let info := Buffer.ofList (← info.toSector size)
      pure (v.backupPlacements boot info e)
    | _, _ => pure []
  let root := v.boot.rootCluster.getD firstRootCluster
  let rootPlacement := (·, v.rootDirectory) <$> v.layout.rootStart root
  pure ([⟨.reservedArea, .ok (0, Buffer.zeros (v.layout.reservedSectors * size))⟩,
      ⟨.bootSector, .ok (0, boot)⟩] ++ special ++ v.tablePlacements ++
    [⟨.rootDirectory, rootPlacement⟩])

end FreshVolume

/-- The failure of a transfer as that of a section. -/
def Section.failed (part : Section) (stop : Stop TransferError) : Stop WriteError :=
  stop.map (⟨part, ·⟩)

namespace Device

/-- Write sections one after the other until one fails, and flush the device after the last. -/
def writeSections (d : Device) : List Placement → Guarded WriteError Unit × Device
  | [] => (d.flush.mapError Section.flush.failed, d)
  | p :: rest =>
    match p.content with
    | .error fault => (.error (.fault fault), d)
    | .ok (start, data) =>
      match d.write start data with
      | (.ok (), d) => d.writeSections rest
      | (.error stop, d) => (.error (p.part.failed stop), d)

/-- Write a fresh volume. -/
def writeVolume (d : Device) (v : FreshVolume) : Guarded WriteError Unit × Device :=
  match v.placements with
  | .error fault => (.error (.fault fault), d)
  | .ok sections => d.writeSections sections

end Device

end FatVolume
