import FatVolume.Bytes
import FatVolume.Fault

/-!
# Layouts

A volume is divided into the reserved area, the copies of the file allocation table, the root
directory (of FAT12 and FAT16) and the clusters. A `Layout` gives the place and size of each in
sectors from the start of the volume. The functions with a `Checked` result say where an area begins
in 64-bit words, and break down where such a word overflows.

The entries of a table have 12, 16 or 32 bits, of which a 32-bit entry uses 28. The `Width` fixes the
markers an entry can hold, how many clusters a volume may have, and how many bytes a table takes. The
`Geometry` holds the physical parameters of the device, with what is customary for its size: heads
and sectors of a track, the cluster size at which FAT32 starts, and the formats of floppy disks.
-/

namespace FatVolume

/-- The width of the entries of a file allocation table. -/
inductive Width where
  /-- Entries of 12 bits, two of them in three bytes. -/
  | fat12
  /-- Entries of 16 bits. -/
  | fat16
  /-- Entries of 32 bits, of which the low 28 count. -/
  | fat32
  deriving DecidableEq

namespace Width

/-- Bits that an entry takes. -/
def bits : Width → Nat
  | fat12 => 12
  | fat16 => 16
  | fat32 => 32

/-- Low bits of an entry that carry its value. -/
def valueBits : Width → Nat
  | fat12 => 12
  | fat16 => 16
  | fat32 => 28

/-- The largest value of an entry. -/
def mask (w : Width) : Nat := 2 ^ w.valueBits - 1

/-- The part of a number that an entry keeps. -/
def value (w : Width) (n : Nat) : Nat := n % 2 ^ w.valueBits

/-- The least of the eight values that end a chain. -/
def endMarker (w : Width) : Nat := w.mask - 7

/-- The value of a cluster that must not be used. -/
def badMarker (w : Width) : Nat := w.mask - 8

/-- A number whose value ends a chain. -/
def isEnd (w : Width) (n : Nat) : Bool := w.endMarker ≤ w.value n

/-- A number whose value marks a bad cluster. -/
def isBad (w : Width) (n : Nat) : Bool := w.value n = w.badMarker

/-- The least number of clusters of a volume. -/
def minClusters : Width → Nat
  | fat12 => 1
  | fat16 => 4087
  | fat32 => 65525

/-- The largest number of clusters of a volume. -/
def maxClusters : Width → Nat
  | fat12 => 4084
  | fat16 => 65524
  | fat32 => 268435446

/-- The name of the width. -/
def text : Width → String
  | fat12 => "FAT12"
  | fat16 => "FAT16"
  | fat32 => "FAT32"

/-- The name of the width as a boot sector stores it. -/
def typeField : Width → Vector UInt8 8
  | fat12 => #v[0x46, 0x41, 0x54, 0x31, 0x32, 0x20, 0x20, 0x20]
  | fat16 => #v[0x46, 0x41, 0x54, 0x31, 0x36, 0x20, 0x20, 0x20]
  | fat32 => #v[0x46, 0x41, 0x54, 0x33, 0x32, 0x20, 0x20, 0x20]

/-- Bytes of a table of so many entries. -/
def tableBytes (w : Width) (entries : Nat) : Nat :=
  match w with
  | fat12 => (entries * 3 + 1) / 2
  | fat16 => entries * 2
  | fat32 => entries * 4

/-- Bytes of a table of so many entries, counted in a 64-bit word. -/
def wordTableBytes (w : Width) (entries : Nat) : Checked Nat := do
  match w with
  | fat12 => let doubled ← within 64 (entries * 3 + 1); pure (doubled / 2)
  | fat16 => within 64 (entries * 2)
  | fat32 => within 64 (entries * 4)

/-- The width that boot code and drivers derive from a number of clusters. -/
def ofClusterCount (clusters : Nat) : Width :=
  if clusters < 4085 then fat12 else if clusters < 65525 then fat16 else fat32

/-- The value of a marked bad cluster is itself a value of the width. -/
theorem value_badMarker (w : Width) : w.value w.badMarker = w.badMarker := by
  cases w <;> decide

/-- No value exceeds the mask. -/
theorem value_le_mask (w : Width) (n : Nat) : w.value n ≤ w.mask := by
  have := Nat.mod_lt n (Nat.two_pow_pos w.valueBits)
  unfold value mask
  omega

end Width

/-- Heads of a device and sectors of a track. -/
structure Tracks where
  /-- Number of heads. -/
  heads : UInt16
  /-- Sectors of a track. -/
  sectors : UInt16
  deriving DecidableEq

/-- Tracks of a device of so many bytes that does not report its own. -/
def Tracks.ofSize (size : Nat) : Tracks :=
  if size < 512 * 1024 * 1024 then ⟨64, 32⟩ else ⟨255, 63⟩

/-- The physical parameters of a device. -/
structure Geometry where
  /-- Bytes of a sector. -/
  sectorSize : UInt32
  /-- Sectors of the device. -/
  totalSectors : UInt64
  /-- Heads and sectors of a track. -/
  tracks : Tracks
  /-- Sectors that precede the volume on its disk. -/
  hiddenSectors : UInt32
  deriving DecidableEq

/-- The geometry of a device that reports only its sectors. -/
def Geometry.ofSectors (sectorSize : UInt32) (totalSectors : UInt64) : Checked Geometry := do
  let size ← within 64 (sectorSize.toNat * totalSectors.toNat)
  pure ⟨sectorSize, totalSectors, Tracks.ofSize size, 0⟩

/-- Bytes of the device. -/
def Geometry.sizeBytes (g : Geometry) : Checked Nat :=
  within 64 (g.totalSectors.toNat * g.sectorSize.toNat)

/-- Units of 512 bytes in a FAT32 cluster, for a device of so many mebibytes. -/
def fat32ClusterUnits (mebibytes : Nat) : Nat :=
  if 32 * 1024 < mebibytes then 64
  else if 16 * 1024 < mebibytes then 32
  else if 8 * 1024 < mebibytes then 16
  else if 260 < mebibytes then 8
  else 1

/-- Sectors of a FAT32 cluster at which the search for a layout starts. -/
def fat32ClusterHint (size sectorSize : Nat) : Checked Nat := do
  let sectors ← quotient (fat32ClusterUnits (size / (1024 * 1024)) * 512) sectorSize
  pure (max 1 sectors)

/-- A standard format of floppy disks. -/
structure FloppyFormat where
  /-- Capacity in KiB. -/
  kibibytes : Nat
  /-- Heads and sectors of a track. -/
  tracks : Tracks
  /-- Media descriptor. -/
  media : UInt8
  /-- Sectors of a cluster. -/
  clusterSectors : UInt32
  /-- Entries of the root directory. -/
  rootEntries : UInt32
  deriving DecidableEq

/-- The standard formats, by capacity. -/
def FloppyFormat.all : List FloppyFormat :=
  [⟨360, ⟨2, 9⟩, 0xFD, 2, 112⟩, ⟨720, ⟨2, 9⟩, 0xF9, 2, 112⟩, ⟨1200, ⟨2, 15⟩, 0xF9, 1, 224⟩,
    ⟨1440, ⟨2, 18⟩, 0xF0, 1, 224⟩, ⟨2880, ⟨2, 36⟩, 0xF0, 2, 240⟩]

/-- The standard format of a disk of exactly so many bytes. -/
def FloppyFormat.ofSize? (size : Nat) : Option FloppyFormat :=
  if size % 1024 = 0 then FloppyFormat.all.find? fun f => f.kibibytes = size / 1024 else none

/-- Bytes of a directory entry. -/
def directoryEntryBytes : Nat := 32

/-- Entries of a table before that of the first cluster. -/
def reservedEntries : Nat := 2

/-- The cluster of the root directory of a fresh FAT32 volume. -/
def firstRootCluster : Nat := 2

/-- Places and sizes of the areas of a volume. -/
structure Layout where
  /-- Width of a table entry. -/
  width : Width
  /-- Bytes of a sector. -/
  sectorSize : Nat
  /-- Sectors of a cluster. -/
  clusterSectors : Nat
  /-- Number of clusters. -/
  clusterCount : Nat
  /-- Sectors of one copy of the table. -/
  tableSectors : Nat
  /-- Number of copies of the table. -/
  tableCount : Nat
  /-- Sectors before the first copy of the table. -/
  reservedSectors : Nat
  /-- Entries of the root directory, zero on FAT32. -/
  rootEntries : Nat
  /-- Sectors of the root directory, zero on FAT32. -/
  rootSectors : Nat
  /-- First sector of the first cluster. -/
  dataStart : Nat
  /-- Sectors of the volume. -/
  totalSectors : Nat
  /-- Whether the areas are aligned to clusters. -/
  aligned : Bool
  deriving DecidableEq

namespace Layout

/-- Entries of a table. -/
def entryCount (l : Layout) : Checked Nat := within 32 (l.clusterCount + reservedEntries)

/-- First sector of a copy of the table, copies counted from 0. -/
def tableStart (l : Layout) (copy : Nat) : Nat := l.reservedSectors + copy * l.tableSectors

/-- First sector of a cluster. -/
def clusterStart (l : Layout) (cluster : Nat) : Nat :=
  l.dataStart + (cluster - reservedEntries) * l.clusterSectors

/-- First sector after the last cluster. -/
def dataEnd (l : Layout) : Nat := l.dataStart + l.clusterCount * l.clusterSectors

/-- First sector of a cluster, as a 64-bit word. -/
def clusterToSector (l : Layout) (cluster : Nat) : Checked Nat := do
  invariant (reservedEntries ≤ cluster)
  within 64 (l.clusterStart cluster)

/-- First sector after the last cluster, as a 64-bit word. -/
def wordDataEnd (l : Layout) : Checked Nat := within 64 l.dataEnd

/-- The cluster of a sector, if the sector belongs to one. -/
def sectorToCluster (l : Layout) (sector : Nat) : Checked (Option Nat) := do
  if sector < l.dataStart then pure none
  else
    let last ← l.wordDataEnd
    if last ≤ sector then pure none
    else
      let index ← quotient (sector - l.dataStart) l.clusterSectors
      some <$> within 32 (low32 index + reservedEntries)

/-- First sector of the root directory, which on FAT32 is that of its cluster. -/
def rootStart (l : Layout) (rootCluster : Nat) : Checked Nat :=
  match l.width with
  | .fat32 => l.clusterToSector rootCluster
  | _ => pure (l.tableStart l.tableCount)

/-- Sectors that a fresh volume has in its root directory. -/
def rootWriteSectors (l : Layout) : Nat :=
  match l.width with
  | .fat32 => l.clusterSectors
  | _ => l.rootSectors

/-- The sectors before the first copy of the table. -/
def reservedRegion (l : Layout) : Checked Region := Region.initial l.reservedSectors

/-- Bytes of one copy of the table. -/
def tableAreaBytes (l : Layout) : Nat := l.tableSectors * l.sectorSize

/-- The layout as reports show it. -/
def text (l : Layout) : String :=
  s!"FAT type              : {l.width.text}\n" ++
  s!"Sector size           : {l.sectorSize}\n" ++
  s!"Sectors per cluster   : {l.clusterSectors}\n" ++
  s!"Number of clusters    : {l.clusterCount}\n" ++
  s!"Reserved sectors      : {l.reservedSectors}\n" ++
  s!"Number of FATs        : {l.tableCount}\n" ++
  s!"Sectors per FAT       : {l.tableSectors}\n" ++
  s!"Root entries          : {l.rootEntries}\n" ++
  s!"Root sectors          : {l.rootSectors}\n" ++
  s!"Data start            : {l.dataStart}\n" ++
  s!"Total sectors         : {l.totalSectors}\n" ++
  s!"Aligned               : {l.aligned}"

end Layout

end FatVolume
