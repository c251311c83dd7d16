import FatVolume.Bytes
import FatVolume.Layout.Basic

/-!
# Partition entries

An entry of a partition table gives its sectors twice: as linear addresses and as cylinder, head
and sector. Addresses that the second form cannot express become its largest address.
-/

namespace FatVolume

/-- Cylinder, head and sector of a disk address. -/
structure Chs where
  /-- The cylinder, counted from 0. -/
  cylinder : UInt16
  /-- The head, counted from 0. -/
  head : UInt8
  /-- The sector of the track, counted from 1. -/
  sector : UInt8
  deriving DecidableEq

namespace Chs

/-- The largest address. -/
def largest : Chs := ⟨1023, 254, 63⟩

/-- Tracks that the form can express. -/
def IsExpressible (t : Tracks) : Prop :=
  1 ≤ t.heads.toNat ∧ t.heads.toNat ≤ 255 ∧ 1 ≤ t.sectors.toNat ∧ t.sectors.toNat ≤ 63

instance (t : Tracks) : Decidable (IsExpressible t) := inferInstanceAs (Decidable (_ ∧ _))

/-- The address of a sector, or the largest address. -/
def ofSector (sector : Nat) (t : Tracks) : Chs :=
  let heads := t.heads.toNat
  let perTrack := t.sectors.toNat
  let cylinder := sector / (perTrack * heads)
  if ¬ IsExpressible t ∨ 1023 < cylinder then largest
  else ⟨UInt16.ofNat cylinder, UInt8.ofNat (sector / perTrack % heads),
    UInt8.ofNat (sector % perTrack + 1)⟩

/-- The three bytes of an address: head, sector with the high bits of the cylinder, low bits of the
cylinder. -/
def encode (a : Chs) : List UInt8 :=
  let cylinder := a.cylinder.toNat
  [a.head, UInt8.ofNat (a.sector.toNat % 64 + cylinder / 256 % 4 * 64), UInt8.ofNat cylinder]

/-- Read an address. -/
def reader : Reader Chs := do
  let head ← Reader.word8
  let mixed ← Reader.word8
  let low ← Reader.word8
  pure ⟨UInt16.ofNat (low.toNat + mixed.toNat / 64 * 256), head, UInt8.ofNat (mixed.toNat % 64)⟩

end Chs

/-- An entry of a partition table. -/
structure Partition where
  /-- 0x80 if the partition is active. -/
  flags : UInt8
  /-- Address of the first sector. -/
  startChs : Chs
  /-- What the partition holds. -/
  kind : UInt8
  /-- Address of the last sector. -/
  endChs : Chs
  /-- The first sector. -/
  start : UInt32
  /-- Number of sectors. -/
  sectors : UInt32
  deriving DecidableEq

namespace Partition

/-- The flags of an active partition. -/
def active : UInt8 := 0x80

/-- Bytes of an entry. -/
def byteCount : Nat := 16

/-- The active partition of so many sectors. -/
def spanning (kind : UInt8) (start sectors : UInt32) (t : Tracks) : Partition where
  flags := active
  startChs := Chs.ofSector start.toNat t
  kind
  endChs := Chs.ofSector (start.toNat + sectors.toNat - 1) t
  start
  sectors

/-- The kind of a partition that holds a volume of so many sectors. -/
def kindOf (w : Width) (sectors : Nat) (t : Tracks) : UInt8 :=
  let addressable := t.heads.toNat * t.sectors.toNat * 1024
  match w with
  | .fat12 => 0x01
  | .fat16 => if sectors < 65536 then 0x04 else if sectors < addressable then 0x06 else 0x0E
  | .fat32 => if sectors < addressable then 0x0B else 0x0C

/-- The sixteen bytes of an entry. -/
def encode (p : Partition) : List UInt8 :=
  ofWord8 p.flags ++ p.startChs.encode ++ ofWord8 p.kind ++ p.endChs.encode ++ ofWord32 p.start
    ++ ofWord32 p.sectors

/-- Read an entry; kind 0 is no partition. -/
def reader : Reader Partition := do
  let flags ← Reader.word8
  let startChs ← Chs.reader
  let kind ← Reader.word8
  if kind = 0 then failure
  let endChs ← Chs.reader
  let start ← Reader.word32
  let sectors ← Reader.word32
  pure ⟨flags, startChs, kind, endChs, start, sectors⟩

/-- The partition of an entry, if it has one. -/
def decode (bytes : List UInt8) : Option Partition := (·.1) <$> reader bytes

/-- An entry has sixteen bytes. -/
@[simp] theorem length_encode (p : Partition) : p.encode.length = byteCount := by
  simp [encode, Chs.encode, ofWord8, ofWord32, byteCount]

end Partition

end FatVolume
