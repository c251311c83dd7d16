import FatVolume.Attempt
import FatVolume.Device.Medium
import FatVolume.Fault

/-!
# Block devices

A device is a disk in memory, a disk on a store, or a window of another device. Blocks of a window
are counted from its start.

Single sectors of a disk in memory can be made unreadable or unwritable, as on a failing medium, and
every successful write is logged. Its contents are whole sectors at all times: `sectorCount_mul` says
that the sectors tile them, and `sectorCount_lt` that a 64-bit word can count them.

A raw disk keeps its blocks in a store that is addressed by bytes, such as an image file. The store
has pages, of which some may fail, and it never grows: what lies past its end is neither read nor
written.
-/

namespace FatVolume

/-- A transfer may break down or fail. -/
abbrev Transfer (α : Type) := Guarded TransferError α

/-- Number of blocks that a transfer of so many bytes covers, if the device has them. -/
def checkTransfer (blockSize blockCount start length : Nat) : Transfer Nat := do
  if blockSize = 0 then throw (.fault .zeroDivisor)
  if length % blockSize ≠ 0 then refuse (.partialBlocks length blockSize)
  let count := length / blockSize
  if start + count ≤ blockCount then pure count else refuse (.pastEnd count start blockCount)

/-- A disk in memory. -/
structure RamDisk where
  /-- Bytes of a sector. -/
  sectorSize : UInt32
  /-- The contents. -/
  medium : Medium
  /-- The type that the disk reports. -/
  mediaType : MediaType
  /-- Whether the disk refuses writes. -/
  readOnly : Bool
  /-- Whether a medium is present. -/
  mediaPresent : Bool
  /-- Sectors that cannot be read. -/
  unreadable : SectorSet
  /-- Sectors that cannot be written. -/
  unwritable : SectorSet
  /-- First sector and number of sectors of every successful write, in order. -/
  log : List (Nat × Nat)
  /-- A sector is not empty. -/
  sectorSize_pos : 0 < sectorSize.toNat
  /-- The contents are whole sectors. -/
  sectorSize_dvd : sectorSize.toNat ∣ medium.size
  /-- The contents can be addressed. -/
  size_lt : medium.size < 2 ^ 63

namespace RamDisk

/-- A disk with the given contents, which must be whole sectors. -/
def ofMedium (medium : Medium) (sectorSize : UInt32) : Checked RamDisk :=
  if pos : 0 < sectorSize.toNat then
    if dvd : sectorSize.toNat ∣ medium.size then
      if lt : medium.size < 2 ^ 63 then
        .ok {
          sectorSize, medium, mediaType := .hard, readOnly := false, mediaPresent := true
          unreadable := ∅, unwritable := ∅, log := []
          sectorSize_pos := pos, sectorSize_dvd := dvd, size_lt := lt }
      else .error .overflow
    else .error .brokenInvariant
  else .error .zeroDivisor

/-- A disk of so many sectors of one repeated byte. -/
def filled (sectorSize : UInt32) (sectors : Nat) (fill : UInt8) : Checked RamDisk := do
  let size ← within 63 (sectorSize.toNat * sectors)
  ofMedium (Medium.filled size fill) sectorSize

/-- Number of sectors. -/
def sectorCount (d : RamDisk) : Nat := d.medium.size / d.sectorSize.toNat

/-- The sectors of a disk make up its contents. -/
theorem sectorCount_mul (d : RamDisk) : d.sectorCount * d.sectorSize.toNat = d.medium.size :=
  Nat.div_mul_cancel d.sectorSize_dvd

/-- A 64-bit word counts the sectors of a disk. -/
theorem sectorCount_lt (d : RamDisk) : d.sectorCount < 2 ^ 64 := by
  have := d.size_lt
  have := Nat.div_le_self d.medium.size d.sectorSize.toNat
  unfold sectorCount
  omega

/-- The bytes of a sector, whatever its condition. -/
def sector (d : RamDisk) (n : Nat) : Checked ByteArray := do
  let start ← within 64 (n * d.sectorSize.toNat)
  if start + d.sectorSize.toNat ≤ d.medium.size then
    pure (d.medium.read start d.sectorSize.toNat)
  else throw .outOfBounds

/-- Read so many bytes from a sector on. -/
def read (d : RamDisk) (start length : Nat) : Transfer ByteArray := do
  let count ← checkTransfer d.sectorSize.toNat d.sectorCount start length
  match d.unreadable.firstFrom start count with
  | some bad => refuse (.unreadable bad)
  | none => pure (d.medium.read (start * d.sectorSize.toNat) length)

/-- What a write to a sector and those after it would meet. -/
def checkWrite (d : RamDisk) (start length : Nat) : Transfer Nat := do
  if d.readOnly then refuse .readOnly
  let count ← checkTransfer d.sectorSize.toNat d.sectorCount start length
  match d.unwritable.firstFrom start count with
  | some bad => refuse (.unwritable bad)
  | none => pure count

/-- Write bytes from a sector on. A write that fails changes nothing. -/
def write (d : RamDisk) (start : Nat) (data : ByteArray) : Transfer Unit × RamDisk :=
  match d.checkWrite start data.size with
  | .error stop => (.error stop, d)
  | .ok count =>
    (.ok (), { d with
      medium := d.medium.write (start * d.sectorSize.toNat) data
      log := d.log ++ [(start, count)]
      sectorSize_dvd := d.sectorSize_dvd
      size_lt := d.size_lt })

end RamDisk

/-- A store of bytes. -/
structure Store where
  /-- The contents. -/
  medium : Medium
  /-- Bytes of a page. -/
  pageSize : Nat
  /-- Pages that cannot be read. -/
  unreadable : SectorSet
  /-- Pages that cannot be written. -/
  unwritable : SectorSet
  /-- Whether flushing fails. -/
  flushFails : Bool
  /-- Position and number of bytes of every write that was taken, in order. -/
  log : List (Nat × Nat)

namespace Store

/-- A store without failures. -/
def sound (medium : Medium) (pageSize : Nat) : Store := ⟨medium, pageSize, ∅, ∅, false, []⟩

/-- Number of bytes that the store has of a stretch. -/
def available (s : Store) (position length : Nat) : Nat := min length (s.medium.size - position)

/-- The first page of a set that a stretch touches. -/
def firstPage (s : Store) (pages : SectorSet) (position length : Nat) : Checked (Option Nat) := do
  if length = 0 then pure none
  else
    let first ← quotient position s.pageSize
    let last ← quotient (position + length - 1) s.pageSize
    pure (pages.firstFrom first (last + 1 - first))

/-- Read a stretch as a whole. -/
def read (s : Store) (position length : Nat) : Transfer ByteArray := do
  let n := s.available position length
  match ← s.firstPage s.unreadable position n with
  | some page => refuse (.storeRead page)
  | none =>
    if n < length then refuse .shortRead else pure (s.medium.read position length)

/-- Write a stretch, as much of it as the store has. A stretch that the store does not have as a
whole fails after that part of it is written. -/
def write (s : Store) (position : Nat) (data : ByteArray) : Transfer Unit × Store :=
  let n := s.available position data.size
  if data.size = 0 then (.ok (), s)
  else match s.firstPage s.unwritable position n with
    | .error fault => (.error (.fault fault), s)
    | .ok (some page) => (refuse (.storeWrite page), s)
    | .ok none =>
      let written := { s with
        medium := s.medium.write position (data.extract 0 n)
        log := s.log ++ [(position, n)] }
      if n = data.size then (.ok (), written)
      else if n = 0 then (refuse .shortWrite, written)
      else (refuse .shortWrite, { written with log := written.log ++ [(position + n, 0)] })

/-- Flush the store. -/
def flush (s : Store) : Transfer Unit := if s.flushFails then refuse .storeFlush else pure ()

end Store

/-- A disk on a backing store. -/
structure RawDisk where
  /-- The store. -/
  store : Store
  /-- Bytes of a block. -/
  blockSize : UInt32
  /-- Number of blocks. -/
  blockCount : UInt64
  /-- The type that the disk reports. -/
  mediaType : MediaType
  /-- Whether the disk refuses writes. -/
  readOnly : Bool

namespace RawDisk

/-- A disk of as many whole blocks as its store has. -/
def probe (store : Store) (blockSize : UInt32) (mediaType : MediaType) : Checked RawDisk := do
  let blockCount ← within 64 (← quotient store.medium.size blockSize.toNat)
  pure ⟨store, blockSize, UInt64.ofNat blockCount, mediaType, false⟩

/-- The remarks on a store that is made a disk. -/
def probeWarnings (store : Store) (blockSize : UInt32) : List Warning :=
  if blockSize.toNat ∣ store.medium.size then []
  else [.partialBlock store.medium.size blockSize.toNat]

/-- Read so many bytes from a block on. -/
def read (d : RawDisk) (start length : Nat) : Transfer ByteArray := do
  let _ ← checkTransfer d.blockSize.toNat d.blockCount.toNat start length
  let position ← within 64 (start * d.blockSize.toNat)
  d.store.read position length

/-- Where a write from a block on would start in the store. -/
def checkWrite (d : RawDisk) (start length : Nat) : Transfer Nat := do
  if d.readOnly then refuse .readOnly
  let _ ← checkTransfer d.blockSize.toNat d.blockCount.toNat start length
  within 64 (start * d.blockSize.toNat)

/-- Write bytes from a block on. -/
def write (d : RawDisk) (start : Nat) (data : ByteArray) : Transfer Unit × RawDisk :=
  match d.checkWrite start data.size with
  | .error stop => (.error stop, d)
  | .ok position =>
    let (result, store) := d.store.write position data
    (result, { d with store })

end RawDisk

/-- A device that transfers whole blocks. -/
inductive Device where
  /-- A disk in memory. -/
  | ram (disk : RamDisk)
  /-- A disk on a backing store. -/
  | raw (disk : RawDisk)
  /-- The blocks of a parent device from `start` on, `count` of them. -/
  | window (parent : Device) (start count : Nat)

namespace Device

/-- Bytes of a block. -/
def blockSize : Device → UInt32
  | ram d => d.sectorSize
  | raw d => d.blockSize
  | window parent _ _ => parent.blockSize

/-- Number of blocks. -/
def blockCount : Device → Nat
  | ram d => d.sectorCount
  | raw d => d.blockCount.toNat
  | window _ _ count => count

/-- The type of the medium. -/
def mediaType : Device → MediaType
  | ram d => d.mediaType
  | raw d => d.mediaType
  | window parent _ _ => parent.mediaType

/-- Whether the device says that it refuses writes. -/
def readOnly : Device → Bool
  | ram d => d.readOnly
  | raw d => d.readOnly
  | window parent _ _ => parent.readOnly

/-- Whether a medium is present. -/
def mediaPresent : Device → Bool
  | ram d => d.mediaPresent
  | raw _ => true
  | window parent _ _ => parent.mediaPresent

/-- Bytes of the device. -/
def sizeBytes (d : Device) : Checked Nat := within 64 (d.blockCount * d.blockSize.toNat)

/-- The window of so many blocks from a block on. -/
def window? (d : Device) (start count : Nat) : Except TransferError Device :=
  if start + count ≤ d.blockCount then .ok (window d start count)
  else .error (.windowPastEnd count start d.blockCount)

/-- The window of all blocks from a block on. -/
def windowFrom? (d : Device) (start : Nat) : Except TransferError Device :=
  d.window? start (d.blockCount - start)

/-- Read so many bytes from a block on. Reading changes no device. -/
def read : Device → Nat → Nat → Transfer ByteArray
  | ram d, start, length => d.read start length
  | raw d, start, length => d.read start length
  | window parent first count, start, length => do
    let _ ← checkTransfer parent.blockSize.toNat count start length
    parent.read (first + start) length

/-- Write bytes from a block on; the device afterwards is returned in every case. -/
def write : Device → Nat → ByteArray → Transfer Unit × Device
  | ram d, start, data =>
    let (result, d) := d.write start data
    (result, ram d)
  | raw d, start, data =>
    let (result, d) := d.write start data
    (result, raw d)
  | window parent first count, start, data =>
    match checkTransfer parent.blockSize.toNat count start data.size with
    | .error stop => (.error stop, window parent first count)
    | .ok _ =>
      let (result, parent) := parent.write (first + start) data
      (result, window parent first count)

/-- Flush the device. Flushing changes no device. -/
def flush : Device → Transfer Unit
  | ram _ => pure ()
  | raw d => d.store.flush
  | window parent _ _ => parent.flush

/-- The device that a window, or a window of a window, belongs to. -/
def root : Device → Device
  | window parent _ _ => parent.root
  | d => d

/-- What the device holds, or the device that a window belongs to. -/
def medium : Device → Medium
  | ram d => d.medium
  | raw d => d.store.medium
  | window parent _ _ => parent.medium

/-- The writes that the device took, in order: blocks of a disk in memory, bytes of a store. -/
def log : Device → List (Nat × Nat)
  | ram d => d.log
  | raw d => d.store.log
  | window parent _ _ => parent.log

end Device

end FatVolume
