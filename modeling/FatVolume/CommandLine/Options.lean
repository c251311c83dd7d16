import FatVolume.Device.Medium
import FatVolume.Layout.Basic
import FatVolume.Text

/-!
# Options of the command line

Every option has a name, most have a letter too. Some stand alone, the others take a value. The
tables of this module are all there is to know about their spelling, and the readers of values about
what may stand behind them.
-/

namespace FatVolume

/-- Why a text is no value of its option. -/
inductive ValueError where
  /-- No width has the name. -/
  | width
  /-- No media type has the name. -/
  | mediaType (text : String)
  /-- The text is no number. -/
  | number (text : String) (reason : NumeralError)
  /-- The number does not fit a byte. -/
  | byte (text : String)
  /-- The text is no volume number. -/
  | volumeId (text : String) (reason : NumeralError)
  /-- Heads and sectors are not divided. -/
  | noSlash (text : String)
  /-- The number of heads is no number. -/
  | heads (reason : NumeralError)
  /-- The number of sectors is no number. -/
  | sectors (reason : NumeralError)
  deriving DecidableEq

/-- The reason in words. -/
def ValueError.message : ValueError → String
  | width => "unknown FAT type, expected 12, 16 or 32"
  | mediaType text => "unknown media type \"" ++ text ++ "\", expected fdd, hdd or ssd"
  | number text reason => "\"" ++ text ++ "\": " ++ reason.message
  | byte text => text ++ " does not fit in a byte"
  | volumeId text reason => "invalid volume ID \"" ++ text ++ "\": " ++ reason.message
  | noSlash text => "expected HEADS/SECTORS, got \"" ++ text ++ "\""
  | heads reason => "heads: " ++ reason.message
  | sectors reason => "sectors: " ++ reason.message

namespace Value

/-- The width of the given number of bits. -/
def width (text : String) : Except ValueError Width :=
  match text with
  | "12" => .ok .fat12
  | "16" => .ok .fat16
  | "32" => .ok .fat32
  | _ => .error .width

/-- The media type of a name, in letters of either case. -/
def mediaType (text : String) : Except ValueError MediaType :=
  match String.ofList (text.toList.map Char.toLower) with
  | "fdd" => .ok .floppy
  | "floppy" => .ok .floppy
  | "hdd" => .ok .hard
  | "ssd" => .ok .solid
  | "unknown" => .ok .unknown
  | _ => .error (.mediaType text)

/-- The digits behind the mark of a hexadecimal number. -/
def afterHexMark? : List Char → Option (List Char)
  | '0' :: 'x' :: digits => some digits
  | '0' :: 'X' :: digits => some digits
  | _ => none

/-- A number in decimal, or in hexadecimal behind a mark. -/
def number (text : String) : Except ValueError Nat :=
  let read := match afterHexMark? text.toList with
    | some digits => Numeral.read 16 64 digits
    | none => Numeral.read 10 64 text.toList
  read.mapError (.number text)

/-- A number that fits a byte. -/
def byte (text : String) : Except ValueError UInt8 := do
  let n ← number text
  if n < 256 then pure (UInt8.ofNat n) else throw (.byte text)

/-- A volume number, in hexadecimal with or without a mark. -/
def volumeId (text : String) : Except ValueError UInt32 :=
  let digits := (afterHexMark? text.toList).getD text.toList
  match Numeral.read 16 32 digits with
  | .ok n => .ok (UInt32.ofNat n)
  | .error reason => .error (.volumeId text reason)

/-- Heads and sectors of a track with a slash between them. -/
def tracks (text : String) : Except ValueError Tracks := do
  let cs := text.toList
  if ¬ cs.contains '/' then throw (.noSlash text)
  let heads ← (Numeral.read 10 16 (cs.takeWhile (· ≠ '/'))).mapError .heads
  let sectors ← (Numeral.read 10 16 ((cs.dropWhile (· ≠ '/')).drop 1)).mapError .sectors
  pure ⟨UInt16.ofNat heads, UInt16.ofNat sectors⟩

/-- A number of the given number of bits in decimal. -/
def decimal (bits : Nat) (text : String) : Except ValueError Nat :=
  (Numeral.read 10 bits text.toList).mapError (.number text)

/-- A number of 8 bits in decimal. -/
def word8 (text : String) : Except ValueError UInt8 := UInt8.ofNat <$> decimal 8 text

/-- A number of 32 bits in decimal. -/
def word32 (text : String) : Except ValueError UInt32 := UInt32.ofNat <$> decimal 32 text

end Value

/-- An option of the command line. -/
inductive Key where
  /-- Show warnings too. -/
  | verbose
  /-- The width of the table. -/
  | width
  /-- The label. -/
  | label
  /-- The volume number. -/
  | volumeId
  /-- The number by which firmware knows the drive. -/
  | driveNumber
  /-- The media descriptor. -/
  | media
  /-- The type of the medium. -/
  | mediaType
  /-- The sector size. -/
  | sectorSize
  /-- Sectors of a cluster. -/
  | clusterSectors
  /-- Sectors of the reserved area. -/
  | reservedSectors
  /-- Entries of the root directory. -/
  | rootEntries
  /-- Copies of the table. -/
  | tableCount
  /-- Scan for bad blocks. -/
  | scan
  /-- The file that lists bad blocks. -/
  | badBlocks
  /-- Do not align areas to clusters. -/
  | unaligned
  /-- The sector of the backup boot sector. -/
  | backup
  /-- The file that holds the boot message. -/
  | message
  /-- Sectors that precede the volume on its disk. -/
  | hiddenSectors
  /-- Heads and sectors of a track. -/
  | tracks
  /-- Write a partition table. -/
  | partitionTable
  /-- The first sector of the volume. -/
  | offset
  /-- Create the file. -/
  | create
  /-- Show how the command is used. -/
  | help
  deriving DecidableEq

/-- How an option is written and what it is for. -/
structure Key.Spelling where
  /-- What stands behind two dashes. -/
  name : String
  /-- What stands behind one dash. -/
  letter : Option Char
  /-- The name of the value, if the option takes one. -/
  value : Option String
  /-- What the option does. -/
  purpose : String

namespace Key

/-- How each option is written. -/
def spelling : Key → Spelling
  | verbose => ⟨"verbose", some 'v', none, "Show warnings"⟩
  | width => ⟨"fat", some 'F', some "WIDTH", "FAT type: 12, 16 or 32"⟩
  | label => ⟨"label", some 'n', some "LABEL", "Volume label"⟩
  | volumeId => ⟨"volume-id", some 'i', some "ID", "Volume ID in hexadecimal"⟩
  | driveNumber => ⟨"drive-number", some 'D', some "NUMBER", "Drive number"⟩
  | media => ⟨"media", some 'M', some "BYTE", "Media descriptor"⟩
  | mediaType => ⟨"media-type", none, some "TYPE", "Type of the medium: fdd, hdd or ssd"⟩
  | sectorSize => ⟨"sector-size", some 'S', some "BYTES", "Sector size"⟩
  | clusterSectors => ⟨"cluster-size", some 's', some "SECTORS", "Sectors per cluster"⟩
  | reservedSectors => ⟨"reserved", some 'R', some "SECTORS", "Reserved sectors"⟩
  | rootEntries => ⟨"root-entries", some 'r', some "ENTRIES", "Root directory entries"⟩
  | tableCount => ⟨"fats", some 'f', some "COUNT", "Number of FATs"⟩
  | scan => ⟨"check", some 'c', none, "Scan the device for bad blocks"⟩
  | badBlocks => ⟨"bad-blocks", some 'l', some "FILE", "File listing bad 1 KiB blocks"⟩
  | unaligned => ⟨"no-align", some 'a', none, "Do not align areas to clusters"⟩
  | backup => ⟨"backup", some 'b', some "SECTOR", "Sector of the backup boot sector"⟩
  | message => ⟨"message", some 'm', some "FILE", "File holding the boot message"⟩
  | hiddenSectors => ⟨"hidden", none, some "SECTORS", "Hidden sectors"⟩
  | tracks => ⟨"geometry", some 'g', some "HEADS/SECTORS", "Heads and sectors per track"⟩
  | partitionTable =>
    ⟨"mbr", none, none, "Write a partition table spanning the whole device"⟩
  | offset => ⟨"offset", none, some "SECTOR", "First sector of the file system"⟩
  | create => ⟨"create", some 'C', none, "Create the image file"⟩
  | help => ⟨"help", some 'h', none, "Show this text"⟩

/-- All options. -/
def all : List Key :=
  [verbose, width, label, volumeId, driveNumber, media, mediaType, sectorSize, clusterSectors,
    reservedSectors, rootEntries, tableCount, scan, badBlocks, unaligned, backup, message,
    hiddenSectors, tracks, partitionTable, offset, create, help]

/-- No option is left out of the list. -/
theorem mem_all (key : Key) : key ∈ all := by cases key <;> decide

/-- The option of a name. -/
def ofName? (name : String) : Option Key := all.find? (·.spelling.name = name)

/-- The option of a letter. -/
def ofLetter? (letter : Char) : Option Key := all.find? (·.spelling.letter = some letter)

/-- The name of an option names it and no other. -/
theorem ofName?_name (key : Key) : ofName? key.spelling.name = some key := by
  cases key <;> decide +kernel

/-- Whether an option takes a value. -/
def takesValue (key : Key) : Bool := key.spelling.value.isSome

/-- An option as the usage text lists it. -/
def usageLine (key : Key) : String :=
  let s := key.spelling
  let letter := s.letter.elim "    " fun c => "-" ++ c.toString ++ ", "
  let value := s.value.elim "" fun v => " <" ++ v ++ ">"
  let form := letter ++ "--" ++ s.name ++ value
  "    " ++ form ++ String.ofList (List.replicate (34 - form.length) ' ') ++ s.purpose

/-- How the command is used. -/
def usage : String :=
  "Create a FAT file system on a device or disk image\n\n" ++
  "Usage: fatvolume [OPTIONS] <file> [blocks]\n\n" ++
  "    <file>    Device or disk image\n" ++
  "    <blocks>  File system size in 1 KiB blocks\n\n" ++
  "Options:\n" ++ String.intercalate "\n" (all.map usageLine)

end Key

end FatVolume
