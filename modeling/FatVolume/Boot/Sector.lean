import FatVolume.Bytes
import FatVolume.Fault
import FatVolume.Label
import FatVolume.Layout.Basic
import FatVolume.Partition

/-!
# Boot sectors

The boot sector of a volume: the parameters by which a driver finds the areas, the code that runs
when the volume is booted, and possibly a partition table that makes the volume look like a
partitioned disk.

A FAT32 volume keeps the number of its free clusters and the first of them in an information sector,
between three signatures. A copy of the boot sector stands in the reserved area, followed by one of
the information sector if there is room (`backupSector?`).
-/

namespace FatVolume

/-- Bytes of the structures that boot code reads. -/
def recordBytes : Nat := 512

/-- The signature at the end of a boot sector and of an information sector. -/
def bootSignature : UInt16 := 0xAA55

/-- What a volume records of its free clusters. -/
structure InfoSector where
  /-- Number of free clusters. -/
  freeClusters : UInt32
  /-- The first free cluster. -/
  nextFree : UInt32
  deriving DecidableEq

namespace InfoSector

/-- The value of a counter that is not known. -/
def unknown : UInt32 := 0xFFFFFFFF

/-- The signature at the start of the sector. -/
def leadSignature : UInt32 := 0x41615252

/-- The signature before the counters. -/
def structSignature : UInt32 := 0x61417272

/-- The 512 bytes of the structure. -/
def encode (s : InfoSector) : List UInt8 :=
  ofWord32 leadSignature ++ List.replicate 480 0 ++ ofWord32 structSignature
    ++ ofWord32 s.freeClusters ++ ofWord32 s.nextFree ++ List.replicate 14 0
    ++ ofWord16 bootSignature

/-- The structure in a sector of so many bytes, filled with zeros. -/
def toSector (s : InfoSector) (sectorSize : Nat) : Checked (List UInt8) := do
  invariant (recordBytes ≤ sectorSize)
  pure (s.encode ++ List.replicate (sectorSize - recordBytes) 0)

/-- Read the structure and check its signatures. -/
def reader : Reader InfoSector := do
  let lead ← Reader.word32
  if lead ≠ leadSignature then failure
  let _ ← Reader.bytes 480
  let struct ← Reader.word32
  if struct ≠ structSignature then failure
  let freeClusters ← Reader.word32
  let nextFree ← Reader.word32
  let _ ← Reader.bytes 14
  let trail ← Reader.word16
  if trail ≠ bootSignature then failure
  pure ⟨freeClusters, nextFree⟩

/-- The structure that a sector starts with, if it does. -/
def decode (bytes : List UInt8) : Option InfoSector := (·.1) <$> reader bytes

/-- The structure has 512 bytes. -/
@[simp] theorem length_encode (s : InfoSector) : s.encode.length = recordBytes := by
  simp only [encode, ofWord32, ofWord16, List.length_append, length_leBytes, List.length_replicate]
  rfl

end InfoSector

/-- What a volume records of itself beside its layout. -/
structure VolumeInfo where
  /-- The label. -/
  label : Label
  /-- The volume number. -/
  volumeId : UInt32
  /-- The number by which firmware knows the drive. -/
  driveNumber : UInt8
  /-- The media descriptor. -/
  media : UInt8
  /-- The moment of creation. -/
  created : Moment
  deriving DecidableEq

/-- The parameters that only FAT32 has. -/
structure Fat32Extension where
  /-- Sectors of one copy of the table. -/
  tableSectors : UInt32
  /-- Which copies of the table are in use. -/
  flags : UInt16
  /-- Version of the format. -/
  version : UInt16
  /-- The cluster of the root directory. -/
  rootCluster : UInt32
  /-- The information sector. -/
  infoSector : UInt16
  /-- The backup of the boot sector, 0 if there is none. -/
  backupSector : UInt16
  deriving DecidableEq

/-- A disk signature with a single partition. -/
structure PartitionTable where
  /-- The disk signature. -/
  signature : UInt32
  /-- The partition. -/
  partition : Partition
  deriving DecidableEq

/-- A boot sector. -/
structure BootSector where
  /-- The jump to the boot code. -/
  jump : Vector UInt8 3
  /-- The system that formatted the volume. -/
  oemId : Vector UInt8 8
  /-- Bytes of a sector. -/
  sectorBytes : UInt16
  /-- Sectors of a cluster. -/
  clusterSectors : UInt8
  /-- Sectors before the first copy of the table. -/
  reservedSectors : UInt16
  /-- Copies of the table. -/
  tableCount : UInt8
  /-- Entries of the root directory. -/
  rootEntries : UInt16
  /-- Sectors of the volume, 0 if their number needs 32 bits. -/
  totalSectors16 : UInt16
  /-- The media descriptor. -/
  media : UInt8
  /-- Sectors of one copy of the table, 0 on FAT32. -/
  tableSectors16 : UInt16
  /-- Heads and sectors of a track. -/
  tracks : Tracks
  /-- Sectors that precede the volume on its disk. -/
  hiddenSectors : UInt32
  /-- Sectors of the volume, if their number needs 32 bits. -/
  totalSectors32 : UInt32
  /-- The parameters of FAT32. -/
  fat32 : Option Fat32Extension
  /-- The number by which firmware knows the drive. -/
  driveNumber : UInt8
  /-- Says that the following fields are there. -/
  extendedSignature : UInt8
  /-- The volume number. -/
  volumeId : UInt32
  /-- The label. -/
  label : Vector UInt8 11
  /-- The name of the width. -/
  typeField : Vector UInt8 8
  /-- The boot code, up to the signature at the end of the sector. -/
  code : List UInt8
  /-- The partition table, which overlays the end of the boot code. -/
  partitionTable : Option PartitionTable
  deriving DecidableEq

namespace BootSector

/-- The information sector of a FAT32 volume. -/
def infoSectorNumber : Nat := 1

/-- Offset of the disk signature in the sector. -/
def diskSignatureOffset : Nat := 0x1B8

/-- Offset of the partition table in the sector. -/
def partitionTableOffset : Nat := 0x1BE

/-- Offset of the boot code in the sector. -/
def codeOffset (fat32 : Bool) : Nat := if fat32 then 0x5A else 0x3E

/-- Offset of the signature that ends the boot code. -/
def codeEnd : Nat := 0x1FE

/-- The system that a fresh volume names. -/
def freshOemId : Vector UInt8 8 := #v[0x4D, 0x53, 0x57, 0x49, 0x4E, 0x34, 0x2E, 0x31]

/-- Offset of the boot code of this sector. -/
def codeStart (s : BootSector) : Nat := codeOffset s.fat32.isSome

/-- Sectors of the volume. -/
def totalSectors (s : BootSector) : Nat :=
  if s.totalSectors16 ≠ 0 then s.totalSectors16.toNat else s.totalSectors32.toNat

/-- Sectors of one copy of the table. -/
def tableSectors (s : BootSector) : Nat :=
  match s.fat32 with
  | some extension => extension.tableSectors.toNat
  | none => s.tableSectors16.toNat

/-- The cluster of the root directory, on FAT32. -/
def rootCluster (s : BootSector) : Option Nat := s.fat32.map (·.rootCluster.toNat)

/-- The number of clusters that a driver works out from the boot sector alone. -/
def readerClusterCount (s : BootSector) : Nat :=
  let rootSectors := ceilDiv (s.rootEntries.toNat * directoryEntryBytes) s.sectorBytes.toNat
  (s.totalSectors - (s.reservedSectors.toNat + s.tableCount.toNat * s.tableSectors + rootSectors))
    / s.clusterSectors.toNat

end BootSector

/-- Where a reserved area of so many sectors takes the backup boot sector: sector 6, else the last
but one, else the last, and never on the information sector. -/
def backupSector? (reserved info : Nat) : Checked (Option Nat) :=
  if 7 ≤ reserved ∧ info ≠ 6 then pure (some 6)
  else do
    let least ← within 32 (info + 3)
    if least ≤ reserved ∧ info + 2 ≠ reserved ∧ info + 1 ≠ reserved then pure (some (reserved - 2))
    else if 3 ≤ reserved ∧ info + 1 ≠ reserved then pure (some (reserved - 1))
    else pure none

end FatVolume
