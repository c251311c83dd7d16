import FatVolume.Boot.Sector

/-!
# Messages and bytes of boot sectors

The boot code of a volume that cannot be booted prints a message and waits for a key. The message
follows a short stub and ends with a zero byte. A partition table takes the end of the boot code,
and a message must end before it.

A boot sector and its 512 bytes are turned into one another. A table length of zero in 16 bits is
what tells FAT32 from the other widths, and a partition table is recognised by what precedes and
follows the disk signature.
-/

namespace FatVolume

namespace Message

/-- One byte of a message as the firmware prints it: a line feed needs a carriage return, other
carriage returns and zeros are dropped. -/
def encodeByte (b : UInt8) : List UInt8 :=
  if b = 13 ∨ b = 0 then [] else if b = 10 then [13, 10] else [b]

/-- A message as the firmware prints it, without the zero at its end. -/
def body (message : List UInt8) : List UInt8 := message.flatMap encodeByte

/-- A message as the boot code holds it. -/
def encode (message : List UInt8) : List UInt8 := body message ++ [0]

/-- The message of a fresh volume. -/
def default : List UInt8 :=
  ofText "This is not a bootable disk.  Please insert a bootable floppy and\n" ++
  ofText "press any key to try again ... \n"

end Message

namespace BootSector

/-- Start of the code that prints the message at `si` and reboots on a key press; the address of the
message follows. -/
def stubHead : List UInt8 := [0x0E, 0x1F, 0xBE]

/-- Rest of the code that prints a message. -/
def stubTail : List UInt8 :=
  [0xAC, 0x22, 0xC0, 0x74, 0x0B, 0x56, 0xB4, 0x0E, 0xBB, 0x07, 0x00, 0xCD, 0x10, 0x5E, 0xEB, 0xF0,
    0x32, 0xE4, 0xCD, 0x16, 0xCD, 0x19, 0xEB, 0xFE]

/-- Bytes of the code before the message. -/
def stubBytes : Nat := 29

/-- Address at which firmware loads the boot sector. -/
def loadAddress : Nat := 0x7C00

/-- The code before the message, for boot code at an offset of the sector. -/
def stub (offset : Nat) : List UInt8 :=
  stubHead ++ leBytes 2 (loadAddress + offset + stubBytes) ++ stubTail

/-- Bytes that a message with its zero can take. -/
def messageCapacity (s : BootSector) : Nat :=
  let limit := if s.partitionTable.isSome then diskSignatureOffset - s.codeStart else s.code.length
  limit - stubBytes

/-- A message cut so that it takes no more bytes than its capacity, with the zero at its end. -/
def cutMessage (capacity : Nat) (encoded : List UInt8) : List UInt8 :=
  if capacity < encoded.length then encoded.take (capacity - 1) ++ [0] else encoded

/-- The sector with boot code that prints a message. -/
def setMessage (s : BootSector) (message : List UInt8) : BootSector :=
  let start := stub s.codeStart ++ cutMessage s.messageCapacity (Message.encode message)
  { s with code := start ++ List.replicate (s.code.length - start.length) 0 }

/-- The remarks on a message that is set. -/
def messageWarnings (s : BootSector) (message : List UInt8) : List Warning :=
  let length := (Message.encode message).length
  if s.messageCapacity < length then [.messageTruncated length s.messageCapacity] else []

/-- Length of the message that the boot code holds, up to its zero. -/
def messageLength (s : BootSector) : Nat := ((s.code.drop stubBytes).takeWhile (· ≠ 0)).length

/-- Whether the message reaches the place of the partition table. -/
def messageOverlaps (s : BootSector) : Bool :=
  diskSignatureOffset - s.codeStart ≤ stubBytes + s.messageLength

/-- The sector with a partition table. The message is cut to end before it. -/
def setPartitionTable (s : BootSector) (t : PartitionTable) : BootSector :=
  let start := diskSignatureOffset - s.codeStart
  let code := if s.messageOverlaps then s.code.take (start - 1) ++ [0] else s.code.take start
  { s with
    code := code ++ List.replicate (s.code.length - start) 0
    partitionTable := some t }

/-- The remarks on a partition table that is set. -/
def partitionTableWarnings (s : BootSector) : List Warning :=
  if s.messageOverlaps then [.messageOverlap] else []

/-- The boot sector of a fresh volume, with the default message. Fields keep the low bits of what
the layout says. The backup sector counts on FAT32 only, 0 means that there is none. -/
def fresh (l : Layout) (g : Geometry) (v : VolumeInfo) (backup : UInt16) : BootSector :=
  let fat32 := l.width = .fat32
  let offset := codeOffset fat32
  let small := l.totalSectors < 65536
  let s : BootSector := {
    jump := #v[0xEB, UInt8.ofNat (offset - 2), 0x90]
    oemId := freshOemId
    sectorBytes := UInt16.ofNat l.sectorSize
    clusterSectors := UInt8.ofNat l.clusterSectors
    reservedSectors := UInt16.ofNat l.reservedSectors
    tableCount := UInt8.ofNat l.tableCount
    rootEntries := UInt16.ofNat l.rootEntries
    totalSectors16 := if small then UInt16.ofNat l.totalSectors else 0
    media := v.media
    tableSectors16 := if fat32 then 0 else UInt16.ofNat l.tableSectors
    tracks := g.tracks
    hiddenSectors := g.hiddenSectors
    totalSectors32 := if small then 0 else UInt32.ofNat l.totalSectors
    fat32 :=
      if fat32 then
        some ⟨UInt32.ofNat l.tableSectors, 0, 0, UInt32.ofNat firstRootCluster,
          UInt16.ofNat infoSectorNumber, backup⟩
      else none
    driveNumber := v.driveNumber
    extendedSignature := 0x29
    volumeId := v.volumeId
    label := v.label.bytes
    typeField := l.width.typeField
    code := List.replicate (codeEnd - offset) 0
    partitionTable := none }
  s.setMessage Message.default

end BootSector

/-- Replace the bytes of a list from an offset. -/
def splice (bytes : List UInt8) (offset : Nat) (field : List UInt8) : List UInt8 :=
  bytes.take offset ++ field ++ bytes.drop (offset + field.length)

namespace Fat32Extension

/-- Bytes that FAT32 reserves. -/
def reservedBytes : Nat := 12

/-- The parameters of FAT32 in a boot sector. -/
def encode (e : Fat32Extension) : List UInt8 :=
  ofWord32 e.tableSectors ++ ofWord16 e.flags ++ ofWord16 e.version ++ ofWord32 e.rootCluster
    ++ ofWord16 e.infoSector ++ ofWord16 e.backupSector ++ List.replicate reservedBytes 0

/-- Read the parameters of FAT32. -/
def reader : Reader Fat32Extension := do
  let tableSectors ← Reader.word32
  let flags ← Reader.word16
  let version ← Reader.word16
  let rootCluster ← Reader.word32
  let infoSector ← Reader.word16
  let backupSector ← Reader.word16
  let _ ← Reader.bytes reservedBytes
  pure ⟨tableSectors, flags, version, rootCluster, infoSector, backupSector⟩

end Fat32Extension

namespace PartitionTable

/-- The bytes from the disk signature to the end of the partition entry. -/
def encode (t : PartitionTable) : List UInt8 :=
  ofWord32 t.signature ++ [0, 0] ++ t.partition.encode

/-- The partition table in the bytes of a sector: the byte before the disk signature and the two
after it are zero, and the entry is an active partition that starts at sector 0. -/
def ofSector (bytes : List UInt8) : Option PartitionTable := do
  let (before, rest) ← Reader.bytes 1 (bytes.drop (BootSector.diskSignatureOffset - 1))
  let (signature, rest) ← Reader.word32 rest
  let (gap, rest) ← Reader.bytes 2 rest
  let (p, _) ← Partition.reader rest
  if before = [0] ∧ gap = [0, 0] ∧ p.flags = Partition.active ∧ p.start = 0 then
    some ⟨signature, p⟩
  else none

end PartitionTable

namespace BootSector

/-- The sector before its partition table is laid over it. -/
def encodeParameters (s : BootSector) : List UInt8 :=
  s.jump.toList ++ s.oemId.toList ++ ofWord16 s.sectorBytes ++ ofWord8 s.clusterSectors
    ++ ofWord16 s.reservedSectors ++ ofWord8 s.tableCount ++ ofWord16 s.rootEntries
    ++ ofWord16 s.totalSectors16 ++ ofWord8 s.media ++ ofWord16 s.tableSectors16
    ++ ofWord16 s.tracks.sectors ++ ofWord16 s.tracks.heads ++ ofWord32 s.hiddenSectors
    ++ ofWord32 s.totalSectors32 ++ (s.fat32.elim [] Fat32Extension.encode)
    ++ ofWord8 s.driveNumber ++ ofWord8 0 ++ ofWord8 s.extendedSignature ++ ofWord32 s.volumeId
    ++ s.label.toList ++ s.typeField.toList ++ s.code ++ ofWord16 bootSignature

/-- The 512 bytes of a boot sector. -/
def encode (s : BootSector) : List UInt8 :=
  match s.partitionTable with
  | none => s.encodeParameters
  | some t => splice s.encodeParameters diskSignatureOffset t.encode

/-- The boot sector in a sector of so many bytes, filled with zeros. -/
def toSector (s : BootSector) (sectorSize : Nat) : Checked (List UInt8) := do
  invariant (recordBytes ≤ sectorSize)
  pure (s.encode ++ List.replicate (sectorSize - recordBytes) 0)

/-- Read everything but the partition table, and check the sizes and the signature. -/
def reader : Reader BootSector := do
  let jump ← Reader.field 3
  let oemId ← Reader.field 8
  let sectorBytes ← Reader.word16
  let clusterSectors ← Reader.word8
  let reservedSectors ← Reader.word16
  let tableCount ← Reader.word8
  let rootEntries ← Reader.word16
  let totalSectors16 ← Reader.word16
  let media ← Reader.word8
  let tableSectors16 ← Reader.word16
  let trackSectors ← Reader.word16
  let heads ← Reader.word16
  let hiddenSectors ← Reader.word32
  let totalSectors32 ← Reader.word32
  unless IsPowerOfTwo sectorBytes.toNat ∧ IsPowerOfTwo clusterSectors.toNat ∧ tableCount ≠ 0 do
    failure
  let fat32 ← if tableSectors16 = 0 then some <$> Fat32Extension.reader else pure none
  let driveNumber ← Reader.word8
  let _ ← Reader.word8
  let extendedSignature ← Reader.word8
  let volumeId ← Reader.word32
  let label ← Reader.field 11
  let typeField ← Reader.field 8
  let code ← Reader.bytes (codeEnd - codeOffset fat32.isSome)
  let signature ← Reader.word16
  if signature ≠ bootSignature then failure
  pure {
    jump, oemId, sectorBytes, clusterSectors, reservedSectors, tableCount, rootEntries,
    totalSectors16, media, tableSectors16, tracks := ⟨heads, trackSectors⟩, hiddenSectors,
    totalSectors32, fat32, driveNumber, extendedSignature, volumeId, label, typeField, code,
    partitionTable := none }

/-- The boot sector that a byte string starts with, if it does. -/
def decode (bytes : List UInt8) : Option BootSector := do
  let (s, _) ← reader bytes
  pure { s with partitionTable := PartitionTable.ofSector bytes }

end BootSector

namespace BootSector

/-- A byte field as text. -/
def shown (field : List UInt8) : String := String.ofList (Utf8.decode field)

/-- A byte field as text, without the blanks at its end. -/
def shownTrimmed (field : List UInt8) : String :=
  String.ofList (Text.trimEnd (Utf8.decode field))

/-- The parameters that only FAT32 has as reports show them. -/
def extensionText (e : Fat32Extension) : String :=
  s!"\nRoot cluster                : {e.rootCluster}" ++
  s!"\nFS info sector              : {e.infoSector}" ++
  s!"\nBackup boot sector          : {e.backupSector}"

/-- The boot sector as reports show it. -/
def text (s : BootSector) : String :=
  "Oem ID                      : " ++ shown s.oemId.toList ++
  s!"\nBytes per sector            : {s.sectorBytes}" ++
  s!"\nSectors per cluster         : {s.clusterSectors}" ++
  s!"\nReserved sectors            : {s.reservedSectors}" ++
  s!"\nNumber of FATs              : {s.tableCount}" ++
  s!"\nNumber of directory entries : {s.rootEntries}" ++
  s!"\nSectors per FAT             : {s.tableSectors}" ++
  "\nMedia descriptor            : 0x" ++ Numeral.hexUpper 2 s.media.toNat ++
  s!"\nSectors per track           : {s.tracks.sectors}" ++
  s!"\nNumber of heads             : {s.tracks.heads}" ++
  s!"\nNumber of hidden sectors    : {s.hiddenSectors}" ++
  s!"\nTotal sectors               : {s.totalSectors}" ++
  "\nVolume ID                   : " ++ Numeral.hexUpper 8 s.volumeId.toNat ++
  "\nLabel                       : " ++ shownTrimmed s.label.toList ++
  "\nType                        : " ++ shownTrimmed s.typeField.toList ++
  s.fat32.elim "" extensionText

end BootSector

end FatVolume
