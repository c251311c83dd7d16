import FatVolume.Bytes
import FatVolume.Layout.Basic
import FatVolume.Text

/-!
# File allocation tables

A table has an entry for each cluster, after two reserved ones. The reserved entries can be set
until the table is sealed; the number of bad clusters is kept beside the entries and follows every
change.

On a volume the entries are packed, least significant byte first; two 12-bit entries share three
bytes. `packedByte` says what each byte of a packed table is and `unpackedEntry` what each entry of
a byte string is.
-/

namespace FatVolume

/-- Why an operation on a table is refused. -/
inductive TableError where
  /-- There is no such entry. -/
  | outOfRange (index entries : Nat)
  /-- The entry is reserved and the table is sealed. -/
  | reservedEntry (index : Nat)
  /-- The number is no entry of the table. -/
  | invalidValue (value : Nat) (width : Width)
  /-- There are too few bytes for the table. -/
  | truncated (actual expected : Nat)
  deriving DecidableEq

/-- The reason in words. -/
def TableError.message : TableError → String
  | outOfRange index entries => s!"cluster {index} is outside of the table ({entries} entries)"
  | reservedEntry index => s!"entry {index} is reserved"
  | invalidValue value width => "0x" ++ Numeral.hex value ++ s!" is not a valid {width.text} entry"
  | truncated actual expected =>
    s!"serialized table has {actual} bytes, expected at least {expected}"

/-- A file allocation table. -/
structure Table where
  /-- Width of an entry on the volume. -/
  width : Width
  /-- The entries. -/
  entries : Array Nat
  /-- Number of clusters that are marked bad. -/
  badClusters : Nat
  /-- Whether the reserved entries are fixed. -/
  sealed : Bool
  deriving DecidableEq

namespace Table

/-- A table of zeros, open for its reserved entries. -/
def blank (width : Width) (entries : Nat) : Table := ⟨width, Array.replicate entries 0, 0, false⟩

/-- Number of entries. -/
def entryCount (t : Table) : Nat := t.entries.size

/-- Fix the reserved entries. -/
def sealReserved (t : Table) : Table := { t with sealed := true }

/-- An entry. -/
def read (t : Table) (index : Nat) : Except TableError Nat :=
  match t.entries[index]? with
  | some value => .ok value
  | none => .error (.outOfRange index t.entryCount)

/-- Whether a cluster is marked bad. -/
def isBad (t : Table) (index : Nat) : Bool :=
  reservedEntries ≤ index && (t.entries[index]?).any t.width.isBad

/-- Whether a cluster is free. -/
def isFree (t : Table) (index : Nat) : Bool :=
  reservedEntries ≤ index && t.entries[index]? = some 0

/-- Number of free clusters. -/
def freeClusters (t : Table) : Nat := (t.entries.toList.drop reservedEntries).count 0

/-- The first free cluster of a number at least `start`. -/
def firstFree (t : Table) (start : Nat) : Option Nat :=
  let first := max start reservedEntries
  (List.range' first (t.entryCount - first)).find? t.isFree

/-- What a cluster's entry can hold: nothing, a cluster of the table, or a marker. -/
def isEntry (t : Table) (value : Nat) : Bool :=
  value = 0 || (reservedEntries ≤ value && value < t.entryCount) || t.width.badMarker ≤ value

/-- The value that an entry would take from a number, if it can. The high bits of a 32-bit entry
do not count. -/
def accept (t : Table) (index number : Nat) : Except TableError Nat :=
  let value := t.width.value number
  if t.width ≠ .fat32 ∧ value ≠ number then .error (.invalidValue number t.width)
  else if index < reservedEntries then
    if t.sealed then .error (.reservedEntry index) else .ok value
  else if t.isEntry value then .ok value
  else .error (.invalidValue number t.width)

/-- The number of bad clusters after an entry changed. -/
def recount (t : Table) (index old new : Nat) : Checked Nat :=
  if index < reservedEntries then pure t.badClusters
  else match t.width.isBad old, t.width.isBad new with
    | false, true => within 32 (t.badClusters + 1)
    | true, false => minus t.badClusters 1
    | _, _ => pure t.badClusters

/-- Set an entry, and say whether it changed. -/
def mark (t : Table) (index number : Nat) : Guarded TableError (Table × Bool) :=
  if h : index < t.entries.size then do
    let value ← orRefuse (t.accept index number)
    let old := t.entries[index]
    if old = value then pure (t, false)
    else
      let badClusters ← t.recount index old value
      pure ({ t with entries := t.entries.set index value, badClusters }, true)
  else refuse (.outOfRange index t.entryCount)

/-- The table of a fresh volume: the first entry has the media descriptor in its low bits, the
second one ends a chain. -/
def fresh (width : Width) (entries : Nat) (media : UInt8) : Guarded TableError Table := do
  let (t, _) ← (blank width entries).mark 0 (width.mask - 255 + media.toNat)
  let (t, _) ← t.mark 1 width.mask
  pure t.sealReserved

end Table

namespace Width

/-- Byte `i` of a packed table with the given entries. -/
def packedByte (w : Width) (entry : Nat → Nat) (i : Nat) : Nat :=
  match w with
  | fat12 =>
    let pair := 2 * (i / 3)
    match i % 3 with
    | 0 => entry pair % 256
    | 1 => entry pair / 256 % 16 + entry (pair + 1) % 16 * 16
    | _ => entry (pair + 1) / 16 % 256
  | fat16 => entry (i / 2) / 256 ^ (i % 2) % 256
  | fat32 => fat32.value (entry (i / 4)) / 256 ^ (i % 4) % 256

/-- Entry `n` of a table packed in the given bytes. -/
def unpackedEntry (w : Width) (byte : Nat → Nat) (n : Nat) : Nat :=
  match w with
  | fat12 =>
    let low := byte (n * 3 / 2)
    let high := byte (n * 3 / 2 + 1)
    if n % 2 = 0 then low + high % 16 * 256 else low / 16 + high * 16
  | fat16 => byte (2 * n) + 256 * byte (2 * n + 1)
  | fat32 =>
    fat32.value (byte (4 * n) + 256 * byte (4 * n + 1) + 65536 * byte (4 * n + 2)
      + 16777216 * byte (4 * n + 3))

end Width

namespace Table

/-- The packed table. -/
def pack (t : Table) : ByteArray :=
  Buffer.generate (t.width.tableBytes t.entryCount) fun i =>
    UInt8.ofNat (t.width.packedByte (fun n => t.entries[n]?.getD 0) i)

/-- The sealed table of so many entries that a byte string starts with. -/
def unpack (width : Width) (entryCount : Nat) (bytes : ByteArray) : Except TableError Table :=
  let expected := width.tableBytes entryCount
  if bytes.size < expected then .error (.truncated bytes.size expected)
  else
    let entries := Array.ofFn fun i : Fin entryCount =>
      width.unpackedEntry (Buffer.byteAt bytes) i
    .ok {
      width
      entries
      badClusters := (entries.toList.drop reservedEntries).countP width.isBad
      sealed := true }

end Table

end FatVolume
