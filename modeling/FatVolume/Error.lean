import FatVolume.Defect
import FatVolume.Device.Medium
import FatVolume.Label
import FatVolume.Layout.Search
import FatVolume.Table

/-!
# Errors of a format

Every reason for which a volume is not made, under the stage that found it; what fails while a
volume is written, under the `Section` that was being written.
-/

namespace FatVolume

/-- A part of a volume that is written at once. -/
inductive Section where
  /-- The reserved area, as zeros. -/
  | reservedArea
  /-- The boot sector. -/
  | bootSector
  /-- The information sector. -/
  | infoSector
  /-- The backup of the boot sector. -/
  | backupBootSector
  /-- The backup of the information sector. -/
  | backupInfoSector
  /-- A copy of the table, counted from 0. -/
  | table (copy : Nat)
  /-- The root directory. -/
  | rootDirectory
  /-- No part, but the flush after the last one. -/
  | flush
  deriving DecidableEq

/-- The part as messages show it; copies of the table are counted from 1. -/
def Section.text : Section → String
  | reservedArea => "reserved area"
  | bootSector => "boot sector"
  | infoSector => "FS information sector"
  | backupBootSector => "backup boot sector"
  | backupInfoSector => "backup FS information sector"
  | table copy => s!"FAT copy {copy + 1}"
  | rootDirectory => "root directory"
  | flush => "flush"

/-- The part that could not be written, and why. -/
structure WriteError where
  /-- The part. -/
  part : Section
  /-- Why it was not written. -/
  cause : TransferError
  deriving DecidableEq

/-- The reason in words. -/
def WriteError.message (e : WriteError) : String :=
  s!"writing {e.part.text} failed: {e.cause.message}"

/-- Why a request does not go together with itself or with the device. -/
inductive ConfigurationError where
  /-- A scan and a list of bad blocks were both asked for. -/
  | scanAndList
  /-- The number of root directory entries does not fit its field. -/
  | rootEntries (entries : Nat)
  /-- Cylinder addresses cannot express the tracks. -/
  | tracks (heads sectors : Nat)
  /-- The backup boot sector was placed on a sector that has another use. -/
  | backupPlace (sector : Nat)
  /-- The backup boot sector was placed outside of the reserved area. -/
  | backupOutside (sector : Nat) (reserved : Region)
  /-- A partition table was asked for on a medium that has none. -/
  | partitionTable (media : MediaType)
  /-- There is no medium. -/
  | noMedium
  /-- The device only reads. -/
  | readOnly
  /-- The sector size is not that of the device. -/
  | sectorSize (requested actual : Nat)
  deriving DecidableEq

/-- The reason in words. -/
def ConfigurationError.message : ConfigurationError → String
  | scanAndList => "cannot scan for bad blocks and use a bad block list at the same time"
  | rootEntries entries => s!"invalid number of root directory entries {entries}"
  | tracks heads sectors =>
    s!"invalid geometry {heads}/{sectors}, expected 1-255 heads and 1-63 sectors per track"
  | backupPlace sector => s!"backup boot sector cannot be placed at sector {sector}"
  | backupOutside sector reserved =>
    s!"backup boot sector {sector} is outside of the reserved area {reserved.text}"
  | partitionTable media => s!"cannot write a partition table to a {media.text}"
  | noMedium => "no medium in the device"
  | readOnly => "device is read only"
  | sectorSize requested actual =>
    s!"requested sector size {requested} does not match device block size {actual}"

/-- Why a volume is not made, or not read. -/
inductive Error where
  /-- The request does not go together. -/
  | configuration (reason : ConfigurationError)
  /-- There is no layout. -/
  | layout (reason : LayoutError)
  /-- The table cannot be made. -/
  | table (reason : TableError)
  /-- Defects cannot be handled. -/
  | defect (reason : DefectError)
  /-- The list of bad blocks is not accepted. -/
  | list (reason : ListError)
  /-- The label is not accepted. -/
  | label (reason : LabelError)
  /-- A part cannot be written. -/
  | write (reason : WriteError)
  /-- Bytes are no boot sector. -/
  | invalidBootSector
  /-- Bytes are no information sector. -/
  | invalidInfoSector
  deriving DecidableEq

namespace Error

/-- The error in words. -/
def message : Error → String
  | configuration reason => "invalid configuration: " ++ reason.message
  | layout reason => "geometry computation failed: " ++ reason.message
  | table reason => "FAT table construction failed: " ++ reason.message
  | defect reason => "defect scan failed: " ++ reason.message
  | list reason => "bad block list rejected: " ++ reason.message
  | label reason => "validation failed: " ++ reason.message
  | write reason => "write failed: " ++ reason.message
  | invalidBootSector => "invalid boot sector"
  | invalidInfoSector => "invalid FS information sector"

/-- The error and what caused it, in words, the error first. -/
def chain (e : Error) : List String :=
  e.message :: match e with
    | configuration _ => []
    | layout reason => [reason.message]
    | table reason => [reason.message]
    | defect reason => [reason.message]
    | list reason => [reason.message]
    | label reason => [reason.message]
    | write reason => [reason.message, reason.cause.message]
    | invalidBootSector => []
    | invalidInfoSector => []

end Error

end FatVolume
