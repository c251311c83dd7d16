import FatVolume.Attempt
import FatVolume.Layout.Basic

/-!
# Search for a layout

`Options` are what a caller asks of a layout. `Parameters.resolve` checks them against the device
and settles everything that does not depend on the cluster size. Cluster sizes are then tried in
ascending order, and the first one with a width that fits decides the layout. FAT16 is preferred to
FAT12. After that the reserved area and the root directory are aligned, and the device must have
32 KiB left for data.

For one cluster size and one width, the sectors left for tables and clusters are divided between
the two: the number of clusters is estimated from above, the table is sized for the estimate, and
the clusters are counted again in what the tables leave.
-/

namespace FatVolume

/-- Why there is no layout. -/
inductive LayoutError where
  /-- The sector size is no power of two between 512 and 32768. -/
  | sectorSize (bytes : Nat)
  /-- The cluster size is no power of two up to 128. -/
  | clusterSize (sectors : Nat)
  /-- The number of table copies is not one of 1 to 4. -/
  | tableCount (copies : Nat)
  /-- The number of reserved sectors does not fit its field. -/
  | reservedSectors (sectors : Nat)
  /-- The device has more sectors than fit a 32-bit word. -/
  | tooManySectors (sectors : Nat)
  /-- The device has no room for the areas before the data, or hardly any after them. -/
  | deviceTooSmall
  /-- No cluster size leads to a number of clusters that a width allows. -/
  | noValidConfiguration (sectors : Nat)
  deriving DecidableEq

/-- The reason in words. -/
def LayoutError.message : LayoutError → String
  | sectorSize bytes =>
    s!"invalid sector size {bytes}, expected a power of two between 512 and 32768"
  | clusterSize sectors =>
    s!"invalid cluster size of {sectors} sectors, expected a power of two between 1 and 128"
  | tableCount copies => s!"invalid number of FATs {copies}, expected 1 to 4"
  | reservedSectors sectors => s!"invalid number of reserved sectors {sectors}"
  | tooManySectors sectors => s!"device has {sectors} sectors, FAT supports at most 4294967295"
  | deviceTooSmall => "device too small for a viable filesystem"
  | noValidConfiguration sectors =>
    s!"no cluster size yields a valid FAT layout for {sectors} sectors"

/-- What a caller asks of a layout. -/
structure Layout.Options where
  /-- The width; without one the size of the device decides. -/
  width : Option Width := none
  /-- Entries of the root directory; FAT32 does not use it. -/
  rootEntries : UInt32 := 512
  /-- The only cluster size that is tried. -/
  clusterSectors : Option UInt32 := none
  /-- The cluster size at which the search starts. -/
  clusterHint : Option UInt32 := none
  /-- Sectors of the reserved area. -/
  reservedSectors : Option UInt32 := none
  /-- Copies of the table. -/
  tableCount : UInt8 := 2
  /-- Whether areas are to be aligned to clusters. -/
  align : Bool := true
  deriving DecidableEq

namespace Layout

/-- A sector size that a volume can have. -/
def IsSectorSize (bytes : Nat) : Prop := IsPowerOfTwo bytes ∧ 512 ≤ bytes ∧ bytes ≤ 32768

instance (bytes : Nat) : Decidable (IsSectorSize bytes) := inferInstanceAs (Decidable (_ ∧ _))

/-- The largest cluster, in sectors. -/
def maxClusterSectors : Nat := 128

/-- A cluster size that a volume can have, in sectors. -/
def IsClusterSize (sectors : Nat) : Prop := IsPowerOfTwo sectors ∧ sectors ≤ maxClusterSectors

instance (sectors : Nat) : Decidable (IsClusterSize sectors) := inferInstanceAs (Decidable (_ ∧ _))

/-- A number of table copies that a volume can have. -/
def IsTableCount (copies : Nat) : Prop := 1 ≤ copies ∧ copies ≤ 4

instance (copies : Nat) : Decidable (IsTableCount copies) := inferInstanceAs (Decidable (_ ∧ _))

/-- The largest number of a 16-bit field. -/
def maxField16 : Nat := 65535

/-- The largest number of a 32-bit field. -/
def maxField32 : Nat := 4294967295

/-- Devices of so many sectors and fewer are never aligned. -/
def alignmentThreshold : Nat := 8192

/-- Devices of so many bytes and more are FAT32 unless another width is asked for. -/
def fat32Threshold : Nat := 512 * 1024 * 1024

/-- What a layout is searched with: the checked options with their defaults. -/
structure Parameters where
  /-- Bytes of a sector. -/
  sectorSize : Nat
  /-- Sectors of the device. -/
  totalSectors : Nat
  /-- Bytes of the device. -/
  size : Nat
  /-- The width, unless both FAT12 and FAT16 may be tried. -/
  width : Option Width
  /-- Sectors of the reserved area before alignment. -/
  reserved : Nat
  /-- Whether the reserved area was raised to the least size of FAT32. -/
  reservedRaised : Bool
  /-- Entries of the root directory, zero on FAT32. -/
  rootEntries : Nat
  /-- Sectors of the root directory before alignment. -/
  rootSectors : Nat
  /-- Copies of the table. -/
  tableCount : Nat
  /-- Whether areas are aligned to clusters. -/
  align : Bool
  /-- The first cluster size that is tried. -/
  startClusterSectors : Nat
  /-- Whether the first cluster size is the only one. -/
  forced : Bool
  deriving DecidableEq

/-- The check of a cluster size, if there is one. -/
def checkClusterSize (sectors : Option UInt32) : Except LayoutError Unit :=
  match sectors with
  | none => .ok ()
  | some n => if IsClusterSize n.toNat then .ok () else .error (.clusterSize n.toNat)

/-- The checks of what the device and the options say by themselves, in the order of precedence. -/
def checkOptions (g : Geometry) (o : Options) : Except LayoutError Unit := do
  unless IsSectorSize g.sectorSize.toNat do throw (.sectorSize g.sectorSize.toNat)
  unless IsTableCount o.tableCount.toNat do throw (.tableCount o.tableCount.toNat)
  checkClusterSize o.clusterSectors
  checkClusterSize o.clusterHint
  if maxField32 < g.totalSectors.toNat then throw (.tooManySectors g.totalSectors.toNat)

/-- The width that the options or the size of the device fix. -/
def fixedWidth (size : Nat) (o : Options) : Option Width :=
  match o.width with
  | some w => some w
  | none => if fat32Threshold ≤ size then some .fat32 else none

/-- The sectors of the reserved area that the options ask for. -/
def requestedReserved (o : Options) (fat32 : Bool) : Nat :=
  match o.reservedSectors with
  | some n => n.toNat
  | none => if fat32 then 32 else 1

/-- The cluster size at which the search starts. -/
def startCluster (size : Nat) (g : Geometry) (o : Options) (fat32 : Bool) : Checked Nat :=
  match o.clusterSectors <|> o.clusterHint with
  | some n => pure n.toNat
  | none => if fat32 then fat32ClusterHint size g.sectorSize.toNat else pure 1

/-- Check the options and settle the defaults. -/
def Parameters.resolve (g : Geometry) (o : Options) : Guarded LayoutError Parameters := do
  orRefuse (checkOptions g o)
  let size ← g.sizeBytes
  let width := fixedWidth size o
  let fat32 := width = some .fat32
  let asked := requestedReserved o fat32
  if asked = 0 ∨ maxField16 < asked then refuse (.reservedSectors asked)
  let rootEntries := if fat32 then 0 else o.rootEntries.toNat
  let rootSectors ← roundedQuotient (rootEntries * 32) g.sectorSize.toNat
  let start ← startCluster size g o fat32
  pure {
    sectorSize := g.sectorSize.toNat
    totalSectors := g.totalSectors.toNat
    size
    width
    reserved := if fat32 then max 2 asked else asked
    reservedRaised := fat32 && asked < 2
    rootEntries
    rootSectors
    tableCount := o.tableCount.toNat
    align := o.align && alignmentThreshold < g.totalSectors.toNat
    startClusterSectors := start
    forced := o.clusterSectors.isSome }

/-- The remarks on a request for a layout. -/
def warnings (g : Geometry) (o : Options) : List Warning :=
  match Parameters.resolve g o with
  | .ok p => if p.reservedRaised then [.reservedRaised] else []
  | .error _ => []

end Layout

namespace Layout

/-- A cluster size on its trial. -/
structure Candidate where
  /-- Bytes of a sector. -/
  sectorSize : Nat
  /-- Sectors of a cluster. -/
  clusterSectors : Nat
  /-- Copies of the table. -/
  tableCount : Nat
  /-- Whether areas are aligned to clusters. -/
  align : Bool
  deriving DecidableEq

/-- Clusters and table of one width for one cluster size. -/
structure Fit where
  /-- Number of clusters. -/
  clusters : Nat
  /-- Sectors of one copy of the table. -/
  tableSectors : Nat
  deriving DecidableEq

namespace Candidate

/-- The size of an area of so many sectors. -/
def alignSectors (c : Candidate) (sectors : Nat) : Checked Nat :=
  if c.align then alignUp sectors c.clusterSectors else pure sectors

/-- Numerator of the estimate: the space in bytes, doubled for FAT12, with the reserved entries of
all tables added to it. -/
def estimateNumerator (c : Candidate) (w : Width) (space : Nat) : Nat :=
  match w with
  | .fat12 => 2 * (space * c.sectorSize + c.tableCount * 3)
  | .fat16 => space * c.sectorSize + c.tableCount * 4
  | .fat32 => space * c.sectorSize + c.tableCount * 8

/-- Denominator of the estimate: the bytes of a cluster with its entries in all tables, doubled for
FAT12. -/
def estimateDenominator (c : Candidate) (w : Width) : Nat :=
  match w with
  | .fat12 => 2 * c.clusterSectors * c.sectorSize + c.tableCount * 3
  | .fat16 => c.clusterSectors * c.sectorSize + c.tableCount * 2
  | .fat32 => c.clusterSectors * c.sectorSize + c.tableCount * 4

/-- Number of clusters that tables and clusters together have room for, at most. -/
def estimate (c : Candidate) (w : Width) (space : Nat) : Checked Nat := do
  let numerator ← within 64 (c.estimateNumerator w space)
  let denominator ← within 64 (c.estimateDenominator w)
  quotient numerator denominator

/-- Sectors of a table for so many clusters. -/
def tableSectors (c : Candidate) (w : Width) (clusters : Nat) : Checked Nat := do
  let bytes ← w.wordTableBytes (clusters + reservedEntries)
  let sectors ← roundedQuotient bytes c.sectorSize
  c.alignSectors sectors

/-- The largest number of clusters for a table of so many sectors. -/
def capacity (c : Candidate) (w : Width) (sectors : Nat) : Checked Nat := do
  let bits ← within 64 (sectors * c.sectorSize * 8)
  let addressable ← minus (bits / w.bits) reservedEntries
  pure (min addressable w.maxClusters)

/-- Divide so many sectors between tables and clusters, if the width allows their number. -/
def fit (c : Candidate) (w : Width) (space : Nat) : Checked (Option Fit) := do
  let estimate ← c.estimate w space
  let tableSectors ← c.tableSectors w estimate
  let allTables ← within 64 (c.tableCount * tableSectors)
  if space < allTables then pure none
  else
    let clusters ← quotient (space - allTables) c.clusterSectors
    let most ← c.capacity w tableSectors
    if clusters < w.minClusters ∨ most < clusters then pure none
    else pure (some ⟨low32 clusters, low32 tableSectors⟩)

end Candidate

end Layout

namespace Layout

/-- The cluster size and width that were found, with their fit. -/
structure Choice where
  /-- The cluster size. -/
  candidate : Candidate
  /-- The width. -/
  width : Width
  /-- Clusters and table. -/
  fit : Fit
  deriving DecidableEq

namespace Parameters

/-- The cluster sizes that are tried, in order. -/
def clusterSizes (p : Parameters) : List Nat :=
  if p.forced then [p.startClusterSectors]
  else ((List.range 8).map fun k => p.startClusterSectors * 2 ^ k).filter (· ≤ maxClusterSectors)

/-- A cluster size on its trial. -/
def candidate (p : Parameters) (clusterSectors : Nat) : Candidate :=
  ⟨p.sectorSize, clusterSectors, p.tableCount, p.align⟩

/-- Whether a width may be tried. -/
def allows (p : Parameters) (w : Width) : Bool :=
  match p.width with
  | some fixed => fixed = w
  | none => w ≠ .fat32

/-- The fit of a width that may be tried. -/
def tryWidth (p : Parameters) (c : Candidate) (w : Width) (space : Nat) : Checked (Option Fit) :=
  if p.allows w then c.fit w space else pure none

/-- The width that fits at one cluster size, if there is one. The device must have room for the
reserved area and the root directory. -/
def tryCluster (p : Parameters) (clusterSectors : Nat) : Guarded LayoutError (Option Choice) := do
  let c := p.candidate clusterSectors
  let reserved ← c.alignSectors p.reserved
  if p.totalSectors < reserved then refuse .deviceTooSmall
  let afterReserved := p.totalSectors - reserved
  let root ← c.alignSectors p.rootSectors
  if afterReserved < root then refuse .deviceTooSmall
  let afterRoot := afterReserved - root
  let fit16 ← p.tryWidth c .fat16 afterRoot
  let fit12 ← p.tryWidth c .fat12 afterRoot
  let fit32 ← p.tryWidth c .fat32 afterReserved
  pure ((fit16.map (⟨c, .fat16, ·⟩)) <|> (fit12.map (⟨c, .fat12, ·⟩)) <|> fit32.map (⟨c, .fat32, ·⟩))

/-- The choice at the first cluster size of a list that has one. -/
def search (p : Parameters) : List Nat → Guarded LayoutError Choice
  | [] => refuse (.noValidConfiguration p.totalSectors)
  | clusterSectors :: rest => do
    match ← p.tryCluster clusterSectors with
    | some choice => pure choice
    | none => p.search rest

/-- Sectors and entries of the root directory. An aligned directory is filled with entries, unless
their number would not fit its field. -/
def rootArea (p : Parameters) (choice : Choice) : Checked (Nat × Nat) := do
  if choice.width = .fat32 then pure (0, 0)
  else if p.align then
    let sectors ← choice.candidate.alignSectors p.rootSectors
    let bytes ← within 64 (sectors * p.sectorSize)
    let entries := bytes / directoryEntryBytes
    if entries ≤ maxField16 then pure (sectors, entries) else pure (p.rootSectors, p.rootEntries)
  else pure (p.rootSectors, p.rootEntries)

/-- KiB that a device must have from the start of its data. -/
def minDataBlocks : Nat := 32

/-- The layout of a choice. -/
def layoutOf (p : Parameters) (choice : Choice) : Guarded LayoutError Layout := do
  let reserved ← choice.candidate.alignSectors p.reserved
  if maxField16 < reserved then refuse (.reservedSectors (low32 reserved))
  let (rootSectors, rootEntries) ← p.rootArea choice
  let dataStart ← within 64 (reserved + p.tableCount * choice.fit.tableSectors + rootSectors)
  let dataByte ← within 64 (dataStart * p.sectorSize)
  let dataBlock ← roundedQuotient dataByte 1024
  if p.size / 1024 < dataBlock + minDataBlocks then refuse .deviceTooSmall
  let layout : Layout := {
    width := choice.width
    sectorSize := p.sectorSize
    clusterSectors := choice.candidate.clusterSectors
    clusterCount := choice.fit.clusters
    tableSectors := choice.fit.tableSectors
    tableCount := p.tableCount
    reservedSectors := low32 reserved
    rootEntries := low32 rootEntries
    rootSectors := low32 rootSectors
    dataStart
    totalSectors := p.totalSectors
    aligned := p.align }
  let dataEnd ← layout.wordDataEnd
  invariant (dataEnd ≤ p.totalSectors)
  pure layout

end Parameters

/-- The layout of a volume that fills a device. -/
def compute (g : Geometry) (o : Options) : Guarded LayoutError Layout := do
  let p ← Parameters.resolve g o
  let choice ← p.search p.clusterSizes
  p.layoutOf choice

end Layout

end FatVolume
