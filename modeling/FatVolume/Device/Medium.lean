import Std.Data.ExtTreeSet
import FatVolume.Bytes
import FatVolume.Fault

/-!
# Media and transfers

The bytes of a medium are those it was made with, overlaid by everything that was written to it.
`Medium.byteAt` is the view of a single byte: `byteAt_write` says what a write does to it, and
`getElem?_read` that a stretch which is read holds the bytes of its addresses.

A transfer moves whole blocks between a buffer and a device. The reasons for which one fails are
listed here, with the kind each belongs to and its wording, and so are the types of media and the
finite sets of sectors that transfers are checked against.
-/

namespace FatVolume

/-- What a device stores on. -/
inductive MediaType where
  /-- Nothing is known. -/
  | unknown
  /-- A floppy disk. -/
  | floppy
  /-- A hard disk. -/
  | hard
  /-- A solid state disk. -/
  | solid
  deriving DecidableEq

namespace MediaType

/-- Fixed media can carry a partition table, floppy disks never do. -/
def isFixed (m : MediaType) : Bool := m = hard || m = solid

/-- The type as messages show it. -/
def text : MediaType → String
  | unknown => "unknown"
  | floppy => "floppy disk"
  | hard => "hard disk"
  | solid => "solid state disk"

end MediaType

/-- A finite set of sectors, or of clusters. -/
abbrev SectorSet := Std.ExtTreeSet Nat compare

namespace SectorSet

/-- The members of a list. -/
def ofList (sectors : List Nat) : SectorSet := sectors.foldl (fun set s => set.insert s) ∅

/-- The first of `count` sectors from `start` that is a member. -/
def firstFrom (set : SectorSet) : Nat → Nat → Option Nat
  | _, 0 => none
  | start, count + 1 => if start ∈ set then some start else firstFrom set (start + 1) count

/-- Add `count` sectors from `start`. -/
def addRange (set : SectorSet) : Nat → Nat → SectorSet
  | _, 0 => set
  | start, count + 1 => addRange (set.insert start) (start + 1) count

end SectorSet

/-- The kind of a failed transfer. -/
inductive TransferKind where
  /-- The medium failed. -/
  | other
  /-- The request makes no sense for the device. -/
  | invalidInput
  /-- The data ended early. -/
  | unexpectedEof
  /-- The device does not take the request. -/
  | permissionDenied
  /-- Nothing more could be stored. -/
  | writeZero
  deriving DecidableEq

/-- Why a transfer fails. -/
inductive TransferError where
  /-- The buffer is not a whole number of blocks long. -/
  | partialBlocks (bytes blockSize : Nat)
  /-- The transfer reaches past the last block. -/
  | pastEnd (count start blocks : Nat)
  /-- A window reaches past the last block of its device. -/
  | windowPastEnd (count start blocks : Nat)
  /-- The device only reads. -/
  | readOnly
  /-- A sector cannot be read. -/
  | unreadable (sector : Nat)
  /-- A sector cannot be written. -/
  | unwritable (sector : Nat)
  /-- A page of the backing store cannot be read. -/
  | storeRead (page : Nat)
  /-- A page of the backing store cannot be written. -/
  | storeWrite (page : Nat)
  /-- The backing store cannot be flushed. -/
  | storeFlush
  /-- The backing store ends inside of the buffer that is read. -/
  | shortRead
  /-- The backing store ends inside of the buffer that is written. -/
  | shortWrite
  deriving DecidableEq

namespace TransferError

/-- The kind of the failure. -/
def kind : TransferError → TransferKind
  | partialBlocks .. => .invalidInput
  | pastEnd .. => .unexpectedEof
  | windowPastEnd .. => .invalidInput
  | readOnly => .permissionDenied
  | unreadable _ => .other
  | unwritable _ => .other
  | storeRead _ => .other
  | storeWrite _ => .other
  | storeFlush => .other
  | shortRead => .unexpectedEof
  | shortWrite => .writeZero

/-- The failure in words. -/
def message : TransferError → String
  | partialBlocks bytes blockSize =>
    s!"transfer of {bytes} bytes is not a multiple of block size {blockSize}"
  | pastEnd count start blocks =>
    s!"transfer of {count} blocks at LBA {start} is past the end of device ({blocks} blocks)"
  | windowPastEnd count start blocks =>
    s!"slice of {count} blocks at LBA {start} does not fit device of {blocks} blocks"
  | readOnly => "device is read only"
  | unreadable sector => s!"unreadable sector {sector}"
  | unwritable sector => s!"write to sector {sector} failed"
  | storeRead page => s!"backend read error {page}"
  | storeWrite page => s!"backend write error {page}"
  | storeFlush => "backend flush error"
  | shortRead => "failed to fill whole buffer"
  | shortWrite => "failed to write whole buffer"

end TransferError

/-- A stretch of bytes that was written. -/
structure Patch where
  /-- Where the bytes start. -/
  position : Nat
  /-- The bytes. -/
  data : ByteArray
  deriving DecidableEq

/-- A byte of a patch, if the address lies in it. -/
def Patch.byteAt? (p : Patch) (address : Nat) : Option UInt8 :=
  if p.position ≤ address then p.data[address - p.position]? else none

/-- A patch has a byte at the addresses from its position on, as long as its bytes last. -/
theorem Patch.byteAt?_eq (p : Patch) (address : Nat) :
    p.byteAt? address =
      if p.position ≤ address then p.data.data[address - p.position]? else none := by
  unfold byteAt?
  split
  · simp only [getElem?_def]
    rfl
  · rfl

/-- The contents of a medium. -/
structure Medium where
  /-- Number of bytes. -/
  size : Nat
  /-- The byte that fills the medium where nothing was written. -/
  fill : UInt8
  /-- What was written, the last write first. -/
  patches : List Patch
  deriving DecidableEq

namespace Medium

/-- A medium of one repeated byte. -/
def filled (size : Nat) (fill : UInt8) : Medium := ⟨size, fill, []⟩

/-- A medium with the given bytes. -/
def ofBytes (bytes : ByteArray) : Medium := ⟨bytes.size, 0, [⟨0, bytes⟩]⟩

/-- The byte at an address, as the last write left it. -/
def byteAt (m : Medium) (address : Nat) : UInt8 :=
  (m.patches.findSome? (·.byteAt? address)).getD m.fill

/-- The `count` bytes from an address. -/
def read (m : Medium) (address count : Nat) : ByteArray :=
  m.patches.foldr (fun p buffer => Buffer.overlay buffer address p.position p.data)
    (Buffer.filled count m.fill)

/-- Write bytes at an address. -/
def write (m : Medium) (address : Nat) (data : ByteArray) : Medium :=
  { m with patches := ⟨address, data⟩ :: m.patches }

/-- A medium that was only filled holds its fill everywhere. -/
@[simp] theorem byteAt_filled (size : Nat) (fill : UInt8) (address : Nat) :
    (filled size fill).byteAt address = fill := rfl

/-- After a write the bytes are those that were written, and elsewhere those from before. -/
theorem byteAt_write (m : Medium) (position : Nat) (data : ByteArray) (address : Nat) :
    (m.write position data).byteAt address =
      (Patch.byteAt? ⟨position, data⟩ address).getD (m.byteAt address) := by
  simp only [byteAt, write, List.findSome?_cons]
  cases Patch.byteAt? ⟨position, data⟩ address <;> rfl

/-- A write does not change the size of a medium. -/
@[simp] theorem size_write (m : Medium) (position : Nat) (data : ByteArray) :
    (m.write position data).size = m.size := rfl

/-- A stretch that is read is as long as it was asked to be. -/
@[simp] theorem size_read (m : Medium) (address count : Nat) :
    (m.read address count).size = count := by
  unfold read
  induction m.patches with
  | nil => exact Buffer.size_filled count m.fill
  | cons p rest ih => rw [List.foldr_cons, Buffer.size_overlay, ih]

/-- A stretch that is read holds the bytes of its addresses. -/
theorem getElem?_read (m : Medium) (address count i : Nat) (h : i < count) :
    (m.read address count).data[i]? = some (m.byteAt (address + i)) := by
  obtain ⟨size, fill, patches⟩ := m
  have size_rest := fun rest => size_read ⟨size, fill, rest⟩ address count
  simp only [read, byteAt] at *
  induction patches with
  | nil => simp [h]
  | cons p rest ih =>
    rw [List.foldr_cons, Buffer.getElem?_overlay _ _ _ _ _ (by rw [size_rest]; exact h), ih,
      List.findSome?_cons, Patch.byteAt?_eq]
    have size_data : p.data.data.size = p.data.size := ByteArray.size_data
    by_cases hp : p.position ≤ address + i
    · by_cases hq : address + i < p.position + p.data.size
      · rw [if_pos ⟨hp, hq⟩, if_pos hp, Array.getElem?_eq_getElem (by omega)]
        rfl
      · rw [if_neg fun hpq => hq hpq.2, if_pos hp, Array.getElem?_eq_none (by omega)]
    · rw [if_neg fun hpq => hp hpq.1, if_neg hp]

/-- All bytes of the medium. -/
def bytes (m : Medium) : ByteArray := m.read 0 m.size

end Medium

end FatVolume
