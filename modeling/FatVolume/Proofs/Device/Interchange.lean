import FatVolume.Proofs.Device.Medium
import FatVolume.Proofs.Volume.Written

/-!
# Disks on stores and disks in memory

A disk on a sound store mirrors a disk in memory without defects when the store begins with the
bytes of that disk (`RawDisk.Mirrors`); what the store has after them is its tail. A call ends alike
on both (`Mirrors.endsAlike`): both refuse it and are as before, or both serve it and still mirror
each other. So no calls, however many, tell the two apart, and none of them reaches the tail
(`RawDisk.interchangeable_ram`).
-/

namespace FatVolume

/-- A call of a device. -/
inductive Call where
  /-- Read so many bytes from a block on. -/
  | read (start length : Nat)
  /-- Write bytes from a block on. -/
  | write (start : Nat) (data : ByteArray)
  /-- Flush the device. -/
  | flush

/-- A call of whole blocks, all of whose bytes lie on a device of `total` blocks. A device that only
reads is written by no call, not even by one without bytes. -/
def Call.Fits (size total : Nat) (readOnly : Bool) : Call → Prop
  | .read start length => size ∣ length ∧ start * size + length ≤ total * size
  | .write start data =>
    readOnly = false ∧ size ∣ data.size ∧ start * size + data.size ≤ total * size
  | .flush => True

namespace Device

/-- What a device answers to a call, with the bytes that were read, and the device afterwards. -/
def call (d : Device) : Call → Transfer ByteArray × Device
  | .read start length => (d.read start length, d)
  | .write start data => ((d.write start data).1.map fun _ => .empty, (d.write start data).2)
  | .flush => (d.flush.map fun _ => .empty, d)

/-- The answers to calls that are made one after the other. -/
def answers (d : Device) : List Call → List (Transfer ByteArray)
  | [] => []
  | c :: rest => (d.call c).1 :: (d.call c).2.answers rest

/-- The device after calls that are made one after the other. -/
def afterCalls (d : Device) (calls : List Call) : Device := calls.foldl (fun d c => (d.call c).2) d

/-- A device of `total` blocks serves a call if it fits, and refuses it otherwise. -/
structure Serves (d : Device) (size total : Nat) (readOnly : Bool) (c : Call) : Prop where
  /-- A call that fits is served. -/
  served : c.Fits size total readOnly → ∃ bytes, (d.call c).1 = .ok bytes
  /-- A call that does not fit is refused and changes nothing. -/
  refused : ¬c.Fits size total readOnly → ∃ reason, d.call c = (refuse reason, d)

/-- No calls tell two devices of `total` blocks apart, of which the first one has a tail after its
blocks. -/
structure Interchangeable (d e : Device) (size total : Nat) (readOnly : Bool) (tail : ByteArray) :
    Prop where
  /-- At any time the first device serves the calls that fit. -/
  serves_first : ∀ calls c, (d.afterCalls calls).Serves size total readOnly c
  /-- At any time the second device serves the same calls. -/
  serves_second : ∀ calls c, (e.afterCalls calls).Serves size total readOnly c
  /-- Every call is answered alike, with the same bytes or for the same reason. -/
  answers_eq : ∀ calls, d.answers calls = e.answers calls
  /-- Both devices end with the same bytes, and the tail is as it was. -/
  bytes_eq : ∀ calls, (d.afterCalls calls).medium.bytes = (e.afterCalls calls).medium.bytes ++ tail
  /-- No write of the first device reaches its tail. -/
  log_le : ∀ calls, ∀ entry ∈ (d.afterCalls calls).log, entry.1 + entry.2 ≤ total * size

end Device

namespace Store

/-- A store without failures. -/
structure IsSound (s : Store) : Prop where
  /-- A page is not empty. -/
  pageSize_pos : 0 < s.pageSize
  /-- Every page can be read. -/
  unreadable_eq : s.unreadable = ∅
  /-- Every page can be written. -/
  unwritable_eq : s.unwritable = ∅
  /-- The store can be flushed. -/
  flushFails_eq : s.flushFails = false

/-- A store takes a write: it has the bytes, and its log at most the stretch. -/
structure Takes (s after : Store) (position : Nat) (data : ByteArray) : Prop where
  /-- The store is still without failures. -/
  isSound : after.IsSound
  /-- There are as many bytes. -/
  size_eq : after.medium.size = s.medium.size
  /-- The bytes lie from the position on. -/
  byteAt_eq : ∀ i, after.medium.byteAt i = (s.medium.write position data).byteAt i
  /-- No other stretch is logged. -/
  log : ∀ entry ∈ after.log, entry ∈ s.log ∨ entry = (position, data.size)

variable {s : Store} {position length : Nat} {data : ByteArray}

/-- No page of a stretch fails if none fails at all. -/
theorem firstPage_empty (hpage : 0 < s.pageSize) (position length : Nat) :
    s.firstPage ∅ position length = .ok none := by
  unfold firstPage
  by_cases hlength : length = 0
  · rw [if_pos hlength]
    rfl
  · rw [if_neg hlength, quotient_of_pos hpage, quotient_of_pos hpage, ok_bind, ok_bind,
      SectorSet.firstFrom_empty]
    rfl

/-- A stretch that a store has is available as a whole. -/
theorem available_of_fits (hfit : position + length ≤ s.medium.size) :
    s.available position length = length :=
  Nat.min_eq_left (by omega)

namespace IsSound

/-- A stretch that a sound store has is read. -/
theorem read_of_fits (h : s.IsSound) (hfit : position + length ≤ s.medium.size) :
    s.read position length = .ok (s.medium.read position length) := by
  unfold Store.read
  rw [available_of_fits hfit, h.unreadable_eq]
  dsimp only
  rw [firstPage_empty h.pageSize_pos, liftM_ok, ok_bind]
  exact if_neg (Nat.lt_irrefl length)

/-- A stretch that a sound store has is written. -/
theorem write_of_fits (h : s.IsSound) (hfit : position + data.size ≤ s.medium.size) :
    ∃ after, s.write position data = (.ok (), after) ∧ s.Takes after position data := by
  unfold Store.write
  rw [available_of_fits hfit]
  dsimp only
  rw [h.unwritable_eq, firstPage_empty h.pageSize_pos, ByteArray.extract_zero_size]
  by_cases hempty : data.size = 0
  · rw [if_pos hempty]
    refine ⟨s, rfl, h, rfl, fun i => ?_, fun entry hentry => Or.inl hentry⟩
    rw [Medium.byteAt_write_of_outside (by omega)]
  · rw [if_neg hempty]
    refine ⟨_, if_pos rfl, ⟨h.pageSize_pos, h.unreadable_eq, rfl, h.flushFails_eq⟩, rfl,
      fun i => rfl, fun entry hentry => ?_⟩
    exact (List.mem_append.1 hentry).imp_right List.mem_singleton.1

end IsSound

end Store

namespace RamDisk

/-- A new disk of whole sectors has the given contents and no defects. -/
theorem exists_ofMedium {medium : Medium} {sectorSize : UInt32}
    (hpos : 0 < sectorSize.toNat) (hdvd : sectorSize.toNat ∣ medium.size)
    (hlt : medium.size < 2 ^ 63) :
    ∃ ram, ofMedium medium sectorSize = .ok ram ∧ ram.sectorSize = sectorSize ∧
      ram.medium = medium ∧ ram.unreadable = ∅ ∧ ram.unwritable = ∅ := by
  unfold ofMedium
  rw [dif_pos hpos, dif_pos hdvd, dif_pos hlt]
  exact ⟨_, rfl, rfl, rfl, rfl, rfl⟩

end RamDisk

namespace RawDisk

variable {raw : RawDisk} {ram : RamDisk} {tail data : ByteArray} {start length count : Nat}

/-- A disk on a sound store that begins with the bytes of a disk in memory without defects. The
store has a tail after them. -/
structure Mirrors (raw : RawDisk) (ram : RamDisk) (tail : ByteArray) : Prop where
  /-- The blocks are the sectors. -/
  blockSize : raw.blockSize = ram.sectorSize
  /-- There are as many blocks as sectors. -/
  blockCount : raw.blockCount.toNat = ram.sectorCount
  /-- Both refuse writes, or neither. -/
  readOnly : raw.readOnly = ram.readOnly
  /-- Every sector can be read. -/
  unreadable : ram.unreadable = ∅
  /-- Every sector can be written. -/
  unwritable : ram.unwritable = ∅
  /-- The store does not fail. -/
  isSound : raw.store.IsSound
  /-- The store has the bytes of the disk and the tail. -/
  size : raw.store.medium.size = ram.medium.size + tail.size
  /-- The store begins with the bytes of the disk. -/
  byteAt : ∀ i, i < ram.medium.size → raw.store.medium.byteAt i = ram.medium.byteAt i
  /-- The tail follows. -/
  tail : ∀ i, i < tail.size →
    tail.data[i]? = some (raw.store.medium.byteAt (ram.medium.size + i))
  /-- No write reached the tail. -/
  log : ∀ entry ∈ raw.store.log, entry.1 + entry.2 ≤ ram.medium.size

/-- A call ends alike on two disks that mirror each other. -/
inductive EndsAlike (raw : RawDisk) (ram : RamDisk) (tail : ByteArray) (c : Call) : Prop
  /-- Both refuse the call for the same reason, and are as before. -/
  | refused (reason : TransferError)
      (misfit : ¬c.Fits ram.sectorSize.toNat ram.sectorCount ram.readOnly)
      (callRaw : (Device.raw raw).call c = (refuse reason, .raw raw))
      (callRam : (Device.ram ram).call c = (refuse reason, .ram ram))
  /-- Both serve the call with the same bytes, and mirror each other again. -/
  | served (bytes : ByteArray) (raw' : RawDisk) (ram' : RamDisk)
      (fits : c.Fits ram.sectorSize.toNat ram.sectorCount ram.readOnly)
      (callRaw : (Device.raw raw).call c = (.ok bytes, .raw raw'))
      (callRam : (Device.ram ram).call c = (.ok bytes, .ram ram'))
      (rewritten : ram.IsRewritten ram') (mirrors : raw'.Mirrors ram' tail)

/-- A disk on a store is written as a device. -/
theorem call_raw_write {raw' : RawDisk} {result : Transfer Unit}
    (h : raw.write start data = (result, raw')) :
    (Device.raw raw).call (.write start data) = (result.map fun _ => .empty, .raw raw') :=
  congrArg (fun w => (w.1.map fun _ => ByteArray.empty, Device.raw w.2)) h

/-- A disk in memory is written as a device. -/
theorem call_ram_write {ram' : RamDisk} {result : Transfer Unit}
    (h : ram.write start data = (result, ram')) :
    (Device.ram ram).call (.write start data) = (result.map fun _ => .empty, .ram ram') :=
  congrArg (fun w => (w.1.map fun _ => ByteArray.empty, Device.ram w.2)) h

/-- What does not pass the checks of a transfer is refused for some reason, and not all of its bytes
lie on the disk. -/
theorem refused_of_checkTransfer {stop : Stop TransferError}
    (h : checkTransfer ram.sectorSize.toNat ram.sectorCount start length = .error stop) :
    (∃ reason, stop = .refused reason) ∧ ¬(ram.sectorSize.toNat ∣ length ∧
      start * ram.sectorSize.toNat + length ≤ ram.sectorCount * ram.sectorSize.toNat) := by
  constructor
  · obtain hreason | hreason := checkTransfer_eq_error ram.sectorSize_pos h
    · exact ⟨_, hreason⟩
    · exact ⟨_, hreason⟩
  · rw [← exists_checkTransfer_eq_ok_iff ram.sectorSize_pos, h]
    exact nofun

/-- Both disks serve a call that ends alike if it fits. -/
theorem EndsAlike.serves {c : Call} (h : raw.EndsAlike ram tail c) :
    (Device.raw raw).Serves ram.sectorSize.toNat ram.sectorCount ram.readOnly c ∧
      (Device.ram ram).Serves ram.sectorSize.toNat ram.sectorCount ram.readOnly c := by
  cases h with
  | refused reason misfit callRaw callRam =>
    exact ⟨⟨fun fits => absurd fits misfit, fun _ => ⟨reason, callRaw⟩⟩,
      fun fits => absurd fits misfit, fun _ => ⟨reason, callRam⟩⟩
  | served bytes raw' ram' fits callRaw callRam =>
    exact ⟨⟨fun _ => ⟨bytes, congrArg Prod.fst callRaw⟩, fun misfit => absurd fits misfit⟩,
      fun _ => ⟨bytes, congrArg Prod.fst callRam⟩, fun misfit => absurd fits misfit⟩

namespace Mirrors

/-- The store has the bytes of the disk and then the tail. -/
theorem bytes_eq (h : raw.Mirrors ram tail) :
    raw.store.medium.bytes = ram.medium.bytes ++ tail := by
  have hsize : ram.medium.bytes.data.size = ram.medium.size := Medium.size_read _ _ _
  refine Medium.read_eq_of_forall ?_ fun i hi => ?_
  · rw [ByteArray.size_append, h.size]
    exact congrArg (· + tail.size) hsize
  · rw [Nat.zero_add, ByteArray.data_append]
    by_cases hlt : i < ram.medium.size
    · have hread := Medium.getElem?_read ram.medium 0 ram.medium.size i hlt
      rw [Array.getElem?_append_left (hlt.trans_eq hsize.symm), h.byteAt i hlt]
      rwa [Nat.zero_add] at hread
    · obtain ⟨k, rfl⟩ := Nat.exists_eq_add_of_le (Nat.le_of_not_lt hlt)
      rw [h.size] at hi
      rw [Array.getElem?_append_right (hsize.trans_le (Nat.le_add_right _ k)), hsize,
        Nat.add_sub_cancel_left, h.tail k (by omega)]

/-- Whole sectors that the disk has are read alike. -/
theorem read_of_ok (h : raw.Mirrors ram tail)
    (hcheck : checkTransfer ram.sectorSize.toNat ram.sectorCount start length = .ok count) :
    ∃ bytes, raw.read start length = .ok bytes ∧ ram.read start length = .ok bytes := by
  obtain ⟨rfl, hfit⟩ := (checkTransfer_eq_ok_iff ram.sectorSize_pos).1 hcheck
  have hle := RamDisk.position_add_le hfit
  have hword := ram.size_lt
  have hsize := h.size
  have hram : ram.read start (count * ram.sectorSize.toNat) = .ok (ram.medium.read
      (start * ram.sectorSize.toNat) (count * ram.sectorSize.toNat)) := by
    rw [RamDisk.read_of_fits hfit, h.unreadable, SectorSet.firstFrom_empty]
    rfl
  refine ⟨_, ?_, hram⟩
  unfold RawDisk.read
  rw [h.blockSize, h.blockCount, hcheck, ok_bind, within_of_lt (by omega), liftM_ok, ok_bind,
    h.isSound.read_of_fits (by omega)]
  refine congrArg Except.ok (Medium.read_eq_of_forall (Medium.size_read _ _ _) fun i hi => ?_)
  rw [Medium.getElem?_read _ _ _ _ hi, h.byteAt _ (by omega)]

/-- After a write that both take, the disks mirror each other. -/
theorem of_takes (h : raw.Mirrors ram tail) {store : Store} {ram' : RamDisk}
    (hle : start * ram.sectorSize.toNat + data.size ≤ ram.medium.size)
    (hraw : raw.store.Takes store (start * ram.sectorSize.toNat) data)
    (hram : ram.Takes ram' start count data) : Mirrors { raw with store } ram' tail where
  blockSize := h.blockSize.trans hram.rewritten.sectorSize_eq.symm
  blockCount := h.blockCount.trans hram.rewritten.sectorCount_eq.symm
  readOnly := h.readOnly.trans hram.rewritten.readOnly_eq.symm
  unreadable := hram.rewritten.unreadable_eq.trans h.unreadable
  unwritable := hram.rewritten.unwritable_eq.trans h.unwritable
  isSound := hraw.isSound
  size := by rw [hram.rewritten.size_eq, ← h.size, ← hraw.size_eq]
  byteAt := fun i hi => by
    rw [hram.rewritten.size_eq] at hi
    rw [hram.medium]
    refine (hraw.byteAt_eq i).trans ?_
    rw [Medium.byteAt_write, Medium.byteAt_write, h.byteAt i hi]
  tail := fun i hi => by
    rw [hram.rewritten.size_eq, h.tail i hi]
    show _ = some (store.medium.byteAt _)
    rw [hraw.byteAt_eq, Medium.byteAt_write_of_outside (by omega)]
  log := fun entry hentry => by
    rw [hram.rewritten.size_eq]
    obtain hold | rfl := hraw.log entry hentry
    · exact h.log entry hold
    · exact hle

/-- Whole sectors that the disk has are written alike. -/
theorem write_of_ok (h : raw.Mirrors ram tail) (hready : ram.readOnly = false)
    (hcheck : checkTransfer ram.sectorSize.toNat ram.sectorCount start data.size = .ok count) :
    ∃ raw' ram', raw.write start data = (.ok (), raw') ∧ ram.write start data = (.ok (), ram') ∧
      ram.IsRewritten ram' ∧ raw'.Mirrors ram' tail := by
  obtain ⟨hlength, hfit⟩ := (checkTransfer_eq_ok_iff ram.sectorSize_pos).1 hcheck
  have hle := RamDisk.position_add_le hfit
  have hword := ram.size_lt
  have hsize := h.size
  have hram : ram.checkWrite start data.size = .ok count := by
    rw [RamDisk.checkWrite_of_ok hready hcheck, h.unwritable, SectorSet.firstFrom_empty]
    rfl
  have hraw : raw.checkWrite start data.size = .ok (start * ram.sectorSize.toNat) := by
    unfold RawDisk.checkWrite
    rw [h.readOnly, hready, h.blockSize, h.blockCount, hcheck, within_of_lt (by omega)]
    rfl
  obtain ⟨ram', hwritten, htakes⟩ := RamDisk.write_of_checkWrite hram
  have hroom : start * ram.sectorSize.toNat + data.size ≤ raw.store.medium.size := by omega
  obtain ⟨store, hstored, hstore⟩ := h.isSound.write_of_fits hroom
  refine ⟨{ raw with store }, ram', ?_, hwritten, htakes.rewritten,
    h.of_takes (by omega) hstore htakes⟩
  unfold RawDisk.write
  rw [hraw]
  dsimp only
  rw [hstored]

/-- A read ends alike. -/
theorem endsAlike_read (h : raw.Mirrors ram tail) (start length : Nat) :
    raw.EndsAlike ram tail (.read start length) := by
  cases hcheck : checkTransfer ram.sectorSize.toNat ram.sectorCount start length with
  | error stop =>
    obtain ⟨⟨reason, rfl⟩, hmisfit⟩ := refused_of_checkTransfer hcheck
    refine .refused reason hmisfit (congrArg (·, Device.raw raw) ?_)
      (congrArg (·, Device.ram ram) ?_)
    · show raw.read start length = _
      unfold RawDisk.read
      rw [h.blockSize, h.blockCount, hcheck]
      rfl
    · show ram.read start length = _
      unfold RamDisk.read
      rw [hcheck]
      rfl
  | ok count =>
    obtain ⟨bytes, hraw, hram⟩ := h.read_of_ok hcheck
    have hfits := (exists_checkTransfer_eq_ok_iff ram.sectorSize_pos).1 ⟨count, hcheck⟩
    exact .served bytes raw ram hfits (congrArg (·, Device.raw raw) hraw)
      (congrArg (·, Device.ram ram) hram) (.refl ram) h

/-- What both disks find against a write is why both refuse it. -/
theorem endsAlike_of_refuse (reason : TransferError)
    (hmisfit : ¬(Call.write start data).Fits ram.sectorSize.toNat ram.sectorCount ram.readOnly)
    (hraw : raw.checkWrite start data.size = refuse reason)
    (hram : ram.checkWrite start data.size = refuse reason) :
    raw.EndsAlike ram tail (.write start data) := by
  have hwriteRaw : raw.write start data = (refuse reason, raw) := by
    unfold RawDisk.write
    rw [hraw]
    rfl
  have hwriteRam : ram.write start data = (refuse reason, ram) := by
    unfold RamDisk.write
    rw [hram]
    rfl
  exact .refused reason hmisfit (call_raw_write hwriteRaw) (call_ram_write hwriteRam)

/-- A write ends alike. -/
theorem endsAlike_write (h : raw.Mirrors ram tail) (start : Nat) (data : ByteArray) :
    raw.EndsAlike ram tail (.write start data) := by
  cases hready : ram.readOnly with
  | true =>
    refine endsAlike_of_refuse .readOnly (fun hfits => ?_) ?_ ?_
    · cases hready.symm.trans hfits.1
    · unfold RawDisk.checkWrite
      rw [h.readOnly, hready]
      rfl
    · unfold RamDisk.checkWrite
      rw [hready]
      rfl
  | false =>
    cases hcheck : checkTransfer ram.sectorSize.toNat ram.sectorCount start data.size with
    | error stop =>
      obtain ⟨⟨reason, rfl⟩, hmisfit⟩ := refused_of_checkTransfer hcheck
      refine endsAlike_of_refuse reason (fun hfits => hmisfit hfits.2) ?_
        (RamDisk.checkWrite_of_error hready hcheck)
      unfold RawDisk.checkWrite
      rw [h.readOnly, hready, h.blockSize, h.blockCount, hcheck]
      rfl
    | ok count =>
      obtain ⟨raw', ram', hraw, hram, hrewritten, hmirrors⟩ := h.write_of_ok hready hcheck
      have hfits := (exists_checkTransfer_eq_ok_iff ram.sectorSize_pos).1 ⟨count, hcheck⟩
      exact .served .empty raw' ram' ⟨hready, hfits⟩ (call_raw_write hraw) (call_ram_write hram)
        hrewritten hmirrors

/-- Every call ends alike on two disks that mirror each other. -/
theorem endsAlike (h : raw.Mirrors ram tail) (c : Call) : raw.EndsAlike ram tail c := by
  cases c with
  | read start length => exact h.endsAlike_read start length
  | write start data => exact h.endsAlike_write start data
  | flush =>
    refine .served .empty raw ram trivial ?_ rfl (.refl ram) h
    unfold Device.call Device.flush Store.flush
    rw [h.isSound.flushFails_eq]
    rfl

/-- After any calls the disks still mirror each other. A call that is served leaves disks that
mirror each other, and one that is refused changes neither. -/
theorem exists_afterCalls (h : raw.Mirrors ram tail) (calls : List Call) :
    ∃ raw' ram', (Device.raw raw).afterCalls calls = .raw raw' ∧
      (Device.ram ram).afterCalls calls = .ram ram' ∧ ram.IsRewritten ram' ∧
        raw'.Mirrors ram' tail := by
  induction calls generalizing raw ram with
  | nil => exact ⟨raw, ram, rfl, rfl, .refl ram, h⟩
  | cons c rest ih =>
    unfold Device.afterCalls at ih ⊢
    rw [List.foldl_cons, List.foldl_cons]
    cases h.endsAlike c with
    | refused reason misfit callRaw callRam =>
      rw [callRaw, callRam]
      exact ih h
    | served bytes raw' ram' fits callRaw callRam rewritten mirrors =>
      rw [callRaw, callRam]
      obtain ⟨raw'', ram'', hraw, hram, hrewritten, hmirrors⟩ := ih mirrors
      exact ⟨raw'', ram'', hraw, hram, rewritten.trans hrewritten, hmirrors⟩

/-- All calls are answered alike. -/
theorem answers_eq (h : raw.Mirrors ram tail) (calls : List Call) :
    (Device.raw raw).answers calls = (Device.ram ram).answers calls := by
  induction calls generalizing raw ram with
  | nil => rfl
  | cons c rest ih =>
    unfold Device.answers
    cases h.endsAlike c with
    | refused reason misfit callRaw callRam =>
      rw [callRaw, callRam]
      exact congrArg _ (ih h)
    | served bytes raw' ram' fits callRaw callRam rewritten mirrors =>
      rw [callRaw, callRam]
      exact congrArg _ (ih mirrors)

/-- After any calls both disks serve the calls that fit. -/
theorem serves (h : raw.Mirrors ram tail) (calls : List Call) (c : Call) :
    ((Device.raw raw).afterCalls calls).Serves ram.sectorSize.toNat ram.sectorCount ram.readOnly c ∧
      ((Device.ram ram).afterCalls calls).Serves ram.sectorSize.toNat ram.sectorCount ram.readOnly
        c := by
  obtain ⟨raw', ram', hraw, hram, hrewritten, hmirrors⟩ := h.exists_afterCalls calls
  have hserves := (hmirrors.endsAlike c).serves
  rwa [← hraw, ← hram, hrewritten.sectorSize_eq, hrewritten.sectorCount_eq,
    hrewritten.readOnly_eq] at hserves

/-- Disks that mirror each other are interchangeable. -/
theorem interchangeable (h : raw.Mirrors ram tail) :
    (Device.raw raw).Interchangeable (.ram ram) ram.sectorSize.toNat ram.sectorCount ram.readOnly
      tail where
  serves_first := fun calls c => (h.serves calls c).1
  serves_second := fun calls c => (h.serves calls c).2
  answers_eq := h.answers_eq
  bytes_eq := fun calls => by
    obtain ⟨raw', ram', hraw, hram, -, hmirrors⟩ := h.exists_afterCalls calls
    rw [hraw, hram]
    exact hmirrors.bytes_eq
  log_le := fun calls => by
    obtain ⟨raw', ram', hraw, -, hrewritten, hmirrors⟩ := h.exists_afterCalls calls
    rw [hraw, ram.sectorCount_mul, ← hrewritten.size_eq]
    exact hmirrors.log

end Mirrors

/-- A disk on a store that was made of some bytes and a tail mirrors a disk of these bytes. -/
theorem mirrors_ofBytes (d : RamDisk) {v : ByteArray} {pageSize : Nat} {blockCount : UInt64}
    (hmedium : d.medium = .ofBytes v) (hunreadable : d.unreadable = ∅)
    (hunwritable : d.unwritable = ∅) (hpage : 0 < pageSize)
    (hcount : blockCount.toNat = d.sectorCount) (mediaType : MediaType) (tail : ByteArray) :
    Mirrors ⟨.sound (.ofBytes (v ++ tail)) pageSize, d.sectorSize, blockCount, mediaType,
      d.readOnly⟩ d tail where
  blockSize := rfl
  blockCount := hcount
  readOnly := rfl
  unreadable := hunreadable
  unwritable := hunwritable
  isSound := ⟨hpage, rfl, rfl, rfl⟩
  size := by
    rw [hmedium]
    exact ByteArray.size_append
  byteAt := fun i hi => by
    rw [hmedium] at hi ⊢
    exact Medium.byteAt_ofBytes_append_left hi tail
  tail := fun i hi => by
    rw [hmedium]
    exact Medium.byteAt_ofBytes_append_right v hi
  log := fun _ hentry => absurd hentry List.not_mem_nil

/-- The blocks of a store that has whole blocks and less than another one are those. -/
theorem probe_eq_ok {store : Store} {blockSize : UInt32} {blockCount : UInt64} {rest : Nat}
    (hsize : store.medium.size = blockCount.toNat * blockSize.toNat + rest)
    (hrest : rest < blockSize.toNat) (mediaType : MediaType) :
    probe store blockSize mediaType = .ok ⟨store, blockSize, blockCount, mediaType, false⟩ := by
  have hpos : 0 < blockSize.toNat := Nat.zero_lt_of_lt hrest
  have hquotient : store.medium.size / blockSize.toNat = blockCount.toNat := by
    rw [hsize, Nat.mul_comm, Nat.mul_add_div hpos, Nat.div_eq_of_lt hrest, Nat.add_zero]
  unfold probe
  rw [quotient_of_pos hpos, ok_bind, hquotient, within_of_lt blockCount.toNat_lt, ok_bind,
    UInt64.ofNat_toNat]
  rfl

end RawDisk

/-- A disk on a sound store of some bytes and the disk in memory of the same bytes are
interchangeable, and so they are when the store has part of another block after them and the disk
is made of as many whole blocks as the store has. The last block stays as it was. -/
theorem RawDisk.interchangeable_ram {v : ByteArray} {size : UInt32} {total : UInt64}
    {pageSize : Nat} (hpos : 1 ≤ size.toNat) (hwhole : v.size = total.toNat * size.toNat)
    (hword : v.size < 2 ^ 63) (hpage : 0 < pageSize) (mediaType : MediaType) (readOnly : Bool) :
    ∃ ram, RamDisk.ofMedium (.ofBytes v) size = .ok ram ∧
      (Device.raw ⟨.sound (.ofBytes v) pageSize, size, total, mediaType, readOnly⟩).Interchangeable
        (.ram { ram with readOnly }) size.toNat total.toNat readOnly .empty ∧
      ∀ tail : ByteArray, tail.size < size.toNat →
        ∃ raw, RawDisk.probe (.sound (.ofBytes (v ++ tail)) pageSize) size mediaType = .ok raw ∧
          (Device.raw { raw with readOnly }).Interchangeable (.ram { ram with readOnly })
            size.toNat total.toNat readOnly tail := by
  have hdvd : size.toNat ∣ (Medium.ofBytes v).size :=
    ⟨total.toNat, hwhole.trans (Nat.mul_comm _ _)⟩
  obtain ⟨ram, hmade, rfl, hmedium, hunreadable, hunwritable⟩ :=
    RamDisk.exists_ofMedium hpos hdvd hword
  have hcount : ram.sectorCount = total.toNat := by
    unfold RamDisk.sectorCount
    rw [hmedium, show (Medium.ofBytes v).size = _ from hwhole, Nat.mul_div_cancel _ hpos]
  have hmirrors : ∀ tail : ByteArray, (Device.raw ⟨.sound (.ofBytes (v ++ tail)) pageSize,
      ram.sectorSize, total, mediaType, readOnly⟩).Interchangeable (.ram { ram with readOnly })
      ram.sectorSize.toNat total.toNat readOnly tail := fun tail => by
    have hsame : Mirrors ⟨.sound (.ofBytes (v ++ tail)) pageSize, ram.sectorSize, total, mediaType,
        readOnly⟩ { ram with readOnly } tail :=
      mirrors_ofBytes { ram with readOnly } hmedium hunreadable hunwritable hpage hcount.symm
        mediaType tail
    rw [← hcount]
    exact hsame.interchangeable
  refine ⟨ram, hmade, ?_, fun tail htail => ?_⟩
  · have hopen := hmirrors .empty
    rwa [ByteArray.append_empty] at hopen
  · have hsize : (Medium.ofBytes (v ++ tail)).size =
        total.toNat * ram.sectorSize.toNat + tail.size := by
      rw [← hwhole]
      exact ByteArray.size_append
    exact ⟨_, probe_eq_ok hsize htail mediaType, hmirrors tail⟩

/-- Two blocks of two bytes, and a store that has a fifth byte after them. Two bytes that are written to
the second block are read back from both devices, a block after it is refused, and the fifth byte
stays. -/
theorem RawDisk.interchangeable_ram_fifth_byte :
    1 ≤ (2 : UInt32).toNat ∧
      (⟨#[1, 2, 3, 4]⟩ : ByteArray).size = (2 : UInt64).toNat * (2 : UInt32).toNat ∧
      (⟨#[1, 2, 3, 4]⟩ : ByteArray).size < 2 ^ 63 ∧ 0 < 4096 ∧
      (⟨#[5]⟩ : ByteArray).size < (2 : UInt32).toNat ∧
      ∃ ram raw, RamDisk.ofMedium (.ofBytes ⟨#[1, 2, 3, 4]⟩) 2 = .ok ram ∧
        RawDisk.probe (.sound (.ofBytes (⟨#[1, 2, 3, 4]⟩ ++ ⟨#[5]⟩)) 4096) 2 .hard = .ok raw ∧
        (Device.raw { raw with readOnly := false }).Interchangeable
          (.ram { ram with readOnly := false }) (2 : UInt32).toNat (2 : UInt64).toNat false
          ⟨#[5]⟩ ∧
        let calls : List Call := [.write 1 ⟨#[7, 8]⟩, .read 0 4, .write 2 ⟨#[9, 9]⟩]
        (Device.ram { ram with readOnly := false }).answers calls =
          [.ok .empty, .ok ⟨#[1, 2, 7, 8]⟩, refuse (.pastEnd 1 2 2)] ∧
        (Device.raw { raw with readOnly := false }).answers calls =
          [.ok .empty, .ok ⟨#[1, 2, 7, 8]⟩, refuse (.pastEnd 1 2 2)] ∧
        ((Device.raw { raw with readOnly := false }).afterCalls calls).medium.bytes =
          ⟨#[1, 2, 7, 8, 5]⟩ := by
  have hpos : 1 ≤ (2 : UInt32).toNat := by decide
  have hwhole : (⟨#[1, 2, 3, 4]⟩ : ByteArray).size = (2 : UInt64).toNat * (2 : UInt32).toNat := by
    decide
  have hword : (⟨#[1, 2, 3, 4]⟩ : ByteArray).size < 2 ^ 63 := by decide
  have hpage : 0 < 4096 := by decide
  have hpart : (⟨#[5]⟩ : ByteArray).size < (2 : UInt32).toNat := by decide
  obtain ⟨ram, hram, -, hprobe⟩ :=
    RawDisk.interchangeable_ram hpos hwhole hword hpage .hard false
  obtain ⟨raw, hraw, halike⟩ := hprobe ⟨#[5]⟩ hpart
  have hanswers : (RamDisk.ofMedium (.ofBytes ⟨#[1, 2, 3, 4]⟩) 2).map (fun ram =>
      (Device.ram { ram with readOnly := false }).answers
        [.write 1 ⟨#[7, 8]⟩, .read 0 4, .write 2 ⟨#[9, 9]⟩]) =
      .ok [.ok .empty, .ok ⟨#[1, 2, 7, 8]⟩, refuse (.pastEnd 1 2 2)] := by decide +kernel
  have hbytes : (RamDisk.ofMedium (.ofBytes ⟨#[1, 2, 3, 4]⟩) 2).map (fun ram =>
      ((Device.ram { ram with readOnly := false }).afterCalls
        [.write 1 ⟨#[7, 8]⟩, .read 0 4, .write 2 ⟨#[9, 9]⟩]).medium.bytes) =
      .ok ⟨#[1, 2, 7, 8]⟩ := by decide +kernel
  rw [hram] at hanswers hbytes
  have hread := Except.ok.inj hanswers
  refine ⟨hpos, hwhole, hword, hpage, hpart, ram, raw, hram, hraw, halike, hread,
    (halike.answers_eq _).trans hread, ?_⟩
  have hjoined : (⟨#[1, 2, 7, 8]⟩ : ByteArray) ++ ⟨#[5]⟩ = ⟨#[1, 2, 7, 8, 5]⟩ := by decide
  rw [halike.bytes_eq, ← hjoined]
  exact congrArg (· ++ ⟨#[5]⟩) (Except.ok.inj hbytes)

end FatVolume
