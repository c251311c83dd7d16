import FatVolume.Attempt
import FatVolume.Bytes
import FatVolume.Calendar
import FatVolume.Text

/-!
# Volume labels

A label is a field of eleven bytes, filled with spaces at its end. `Label.parse` accepts the texts
that short names allow, and `Label.entry` is the directory entry that names the volume.
-/

namespace FatVolume

/-- Why a text is no label. -/
inductive LabelError where
  /-- The text has more than eleven bytes. -/
  | tooLong (text : String)
  /-- The text has a character outside of ASCII. -/
  | notAscii (text : String)
  /-- The text has a character that short names do not allow. -/
  | forbidden (c : Char)
  /-- The text starts with a space. -/
  | leadingSpace
  deriving DecidableEq

/-- The reason in words. -/
def LabelError.message : LabelError → String
  | tooLong text => "volume label \"" ++ text ++ "\" is longer than 11 bytes"
  | notAscii text => "volume label \"" ++ text ++ "\" contains non ASCII characters"
  | forbidden c => "volume label contains forbidden character " ++ Text.quoted c
  | leadingSpace => "volume label cannot start with a space"

/-- A volume label, filled with spaces. -/
structure Label where
  /-- The eleven bytes. -/
  bytes : Vector UInt8 11
  deriving DecidableEq

namespace Label

/-- A character that short names and labels do not allow. -/
def isForbidden (c : Char) : Bool :=
  c < ' ' || c = '\x7f' || "*?.,;:/\\|+=<>[]\"".toList.contains c

/-- The characters of a text of at most eleven, filled with spaces. -/
def padded (text : List Char) : Label where
  bytes := Vector.ofFn fun i => UInt8.ofNat ((text[i.val]?.getD ' ').toNat)

/-- The label of a volume without a name. -/
def unnamed : Label := padded "NO NAME".toList

/-- The label that a text names; no text at all names the label of a volume without a name. -/
def parse (text : String) : Except LabelError Label :=
  let cs := text.toList
  if cs = [] then .ok unnamed
  else if cs.any (fun c => '\x7f' < c) then .error (.notAscii text)
  else if 11 < cs.length then .error (.tooLong text)
  else if cs.head? = some ' ' then .error .leadingSpace
  else match cs.find? isForbidden with
    | some c => .error (.forbidden c)
    | none => .ok (padded cs)

/-- A byte of a lower case letter. -/
def isLower (b : UInt8) : Bool := Utf8.between 0x61 0x7A b

/-- The remarks on a label that was read. -/
def warnings (l : Label) : List Warning :=
  if l.bytes.toList.any isLower then [.lowercaseLabel] else []

/-- The label as texts show it, without the spaces at its end. -/
def text (l : Label) : String := String.ofList (Text.trimEnd (Utf8.decode l.bytes.toList))

/-- The attribute of a directory entry that names the volume. -/
def volumeAttribute : UInt8 := 0x08

/-- The directory entry that names the volume; all its stamps are the moment of creation. -/
def entry (l : Label) (created : Moment) : List UInt8 :=
  let stamp := Stamp.ofMoment created
  l.bytes.toList ++ ofWord8 volumeAttribute ++ ofWord8 0 ++ ofWord8 0
    ++ ofWord16 stamp.time ++ ofWord16 stamp.date ++ ofWord16 stamp.date ++ ofWord16 0
    ++ ofWord16 stamp.time ++ ofWord16 stamp.date ++ ofWord16 0 ++ ofWord32 0

/-- A directory entry has 32 bytes. -/
@[simp] theorem length_entry (l : Label) (created : Moment) : (l.entry created).length = 32 := by
  simp [entry, ofWord8, ofWord16, ofWord32]

end Label

end FatVolume
