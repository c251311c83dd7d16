import FatVolume.Device.Basic
import FatVolume.Device.Medium
import FatVolume.Proofs.Guard

/-!
# Sectors of media

Whole sectors that are written: a sector afterwards holds its part of what was written, or what it
held before (`sector_write`). A transfer passes when its bytes are whole sectors that the device has.
A disk in memory then reads them unless one of them cannot be read (`RamDisk.read_of_fits`).
-/

namespace FatVolume

namespace SectorSet

theorem mem_insert {set : SectorSet} {a b : Nat} : b ∈ set.insert a ↔ b = a ∨ b ∈ set := by
  rw [Std.ExtTreeSet.mem_insert, Nat.compare_eq_eq, eq_comm]

/-- A set without members has none in its list. -/
theorem toList_eq_nil_iff {set : SectorSet} : set.toList = [] ↔ set.isEmpty = true := by
  rw [Std.ExtTreeSet.toList_eq_nil_iff, Std.ExtTreeSet.isEmpty_iff]

variable {set small large : SectorSet} {s start count : Nat}

/-- The members of a set that was filled from a list. -/
theorem mem_ofList {sectors : List Nat} : s ∈ ofList sectors ↔ s ∈ sectors := by
  have hfold : ∀ set : SectorSet,
      s ∈ sectors.foldl (fun set s => set.insert s) set ↔ s ∈ sectors ∨ s ∈ set := by
    induction sectors with
    | nil => simp
    | cons first rest ih =>
      intro set
      rw [List.foldl_cons, ih, mem_insert, List.mem_cons, or_left_comm, or_assoc]
  exact (hfold ∅).trans (or_iff_left Std.ExtTreeSet.not_mem_empty)

/-- The members of a set to which a stretch was added. -/
theorem mem_addRange : s ∈ set.addRange start count ↔ s ∈ set ∨ start ≤ s ∧ s < start + count := by
  induction count generalizing set start with
  | zero =>
    rw [addRange]
    exact (or_iff_left fun h => by omega).symm
  | succ count ih =>
    rw [addRange, ih, mem_insert, or_comm (a := s = start), or_assoc]
    refine or_congr_right ?_
    omega

/-- The first member of a stretch is the least one. -/
theorem firstFrom_eq_some_iff : set.firstFrom start count = some s ↔
    (s ∈ set ∧ start ≤ s ∧ s < start + count) ∧ ∀ r ∈ set, start ≤ r → s ≤ r := by
  induction count generalizing start with
  | zero =>
    rw [firstFrom]
    exact iff_of_false nofun fun h => by omega
  | succ count ih =>
    rw [firstFrom]
    by_cases hmem : start ∈ set
    · rw [if_pos hmem, Option.some.injEq]
      constructor
      · rintro rfl
        exact ⟨⟨hmem, Nat.le_refl _, by omega⟩, fun r _ hr => hr⟩
      · rintro ⟨⟨-, hle, -⟩, hleast⟩
        exact Nat.le_antisymm hle (hleast start hmem (Nat.le_refl _))
    · rw [if_neg hmem, ih]
      have hne : ∀ r ∈ set, start ≤ r → start + 1 ≤ r := fun r hr hle =>
        Nat.lt_of_le_of_ne hle fun he => hmem (he ▸ hr)
      constructor
      · rintro ⟨⟨hs, hle, hlt⟩, hleast⟩
        exact ⟨⟨hs, by omega, by omega⟩, fun r hr hstart => hleast r hr (hne r hr hstart)⟩
      · rintro ⟨⟨hs, hle, hlt⟩, hleast⟩
        exact ⟨⟨hs, hne s hs hle, by omega⟩, fun r hr hstart => hleast r hr (by omega)⟩

/-- A stretch has no first member just if it has none at all. -/
theorem firstFrom_eq_none_iff :
    set.firstFrom start count = none ↔ ∀ s ∈ set, start ≤ s → start + count ≤ s := by
  induction count generalizing start with
  | zero =>
    rw [firstFrom]
    exact iff_of_true rfl fun _ _ hle => hle
  | succ count ih =>
    rw [firstFrom]
    by_cases hmem : start ∈ set
    · rw [if_pos hmem]
      refine iff_of_false nofun fun h => ?_
      have := h start hmem (Nat.le_refl _)
      omega
    · rw [if_neg hmem, ih]
      constructor
      · intro h s hs hle
        have hne : start ≠ s := fun he => hmem (he ▸ hs)
        have := h s hs (by omega)
        omega
      · intro h s hs hle
        have := h s hs (by omega)
        omega

theorem firstFrom_empty (start count : Nat) : (∅ : SectorSet).firstFrom start count = none :=
  firstFrom_eq_none_iff.2 fun _ hmem => absurd hmem Std.ExtTreeSet.not_mem_empty

/-- The first member among sectors that are all `a` further on. -/
theorem firstFrom_add {a : Nat}
    (h : ∀ s, start ≤ s → s < start + count → (s ∈ small ↔ a + s ∈ large)) :
    large.firstFrom (a + start) count = (small.firstFrom start count).map (a + ·) := by
  induction count generalizing start with
  | zero => rfl
  | succ count ih =>
    have hfirst := h start (Nat.le_refl _) (by omega)
    unfold firstFrom
    by_cases hmem : start ∈ small
    · rw [if_pos hmem, if_pos (hfirst.1 hmem), Option.map_some]
    · rw [if_neg hmem, if_neg fun hn => hmem (hfirst.2 hn), Nat.add_assoc]
      exact ih fun s hle hlt => h s (by omega) (by omega)

end SectorSet

/-- The part of a buffer that belongs to its sector of a number. -/
def Buffer.sector (data : ByteArray) (size n : Nat) : ByteArray :=
  data.extract (n * size) ((n + 1) * size)

/-- A buffer of one sector is its first sector. -/
theorem Buffer.sector_zero {data : ByteArray} {size : Nat} (h : data.size = size) :
    Buffer.sector data size 0 = data := by
  subst h
  unfold Buffer.sector
  rw [Nat.zero_mul, Nat.zero_add, Nat.one_mul, ByteArray.extract_zero_size]

/-- A sector of zeros holds nothing else. -/
theorem Buffer.sector_zeros {size sectors n : Nat} (h : n < sectors) :
    Buffer.sector (Buffer.zeros (sectors * size)) size n = Buffer.zeros size := by
  have hmul := Nat.mul_le_mul_right size (by omega : n + 1 ≤ sectors)
  rw [Nat.add_mul, Nat.one_mul] at hmul
  unfold Buffer.sector Buffer.zeros
  refine ByteArray.ext ?_
  rw [ByteArray.data_extract, Buffer.data_filled, Buffer.data_filled, Array.extract_replicate]
  congr 1
  rw [Nat.add_mul, Nat.one_mul]
  omega

namespace Medium

/-- The bytes of a sector. -/
def sector (m : Medium) (size n : Nat) : ByteArray := m.read (n * size) size

variable {m : Medium} {address count position : Nat} {data : ByteArray}

/-- Buffers are equal if they have as many bytes and the same byte at each index. -/
theorem read_eq_of_forall (hsize : data.size = count)
    (hbyte : ∀ i, i < count → data.data[i]? = some (m.byteAt (address + i))) :
    m.read address count = data := by
  refine ByteArray.ext (Array.ext_getElem? fun i => ?_)
  by_cases hi : i < count
  · rw [getElem?_read m address count i hi, hbyte i hi]
  · have hread : (m.read address count).data.size = count := by
      rw [ByteArray.size_data, size_read]
    have hdata : data.data.size = count := by rw [ByteArray.size_data, hsize]
    rw [Array.getElem?_eq_none (by omega), Array.getElem?_eq_none (by omega)]

/-- A medium that was made of some bytes holds each of them. -/
theorem byteAt_ofBytes {bytes : ByteArray} {i : Nat} (h : i < bytes.size) :
    bytes.data[i]? = some ((ofBytes bytes).byteAt i) := by
  have hpatch : Patch.byteAt? ⟨0, bytes⟩ i = bytes.data[i]? := by
    rw [Patch.byteAt?_eq, if_pos (Nat.zero_le i), Nat.sub_zero]
  unfold byteAt ofBytes
  rw [List.findSome?_cons, hpatch, Array.getElem?_eq_getElem (ByteArray.size_data ▸ h)]
  rfl

/-- Bytes that follow leave the first ones where they are. -/
theorem byteAt_ofBytes_append_left {bytes : ByteArray} {i : Nat} (h : i < bytes.size)
    (tail : ByteArray) : (ofBytes (bytes ++ tail)).byteAt i = (ofBytes bytes).byteAt i := by
  have hlt : i < (bytes ++ tail).size := by
    rw [ByteArray.size_append]
    exact Nat.lt_add_right _ h
  have hall := byteAt_ofBytes hlt
  rw [ByteArray.data_append, Array.getElem?_append_left h, byteAt_ofBytes h] at hall
  exact (Option.some.inj hall).symm

/-- Bytes that follow are found after the first ones. -/
theorem byteAt_ofBytes_append_right (bytes : ByteArray) {tail : ByteArray} {i : Nat}
    (h : i < tail.size) :
    tail.data[i]? = some ((ofBytes (bytes ++ tail)).byteAt (bytes.size + i)) := by
  have hlt : bytes.size + i < (bytes ++ tail).size := by
    rw [ByteArray.size_append]
    exact Nat.add_lt_add_left h _
  have hall := byteAt_ofBytes hlt
  rw [ByteArray.data_append, Array.getElem?_append_right
    (Nat.le_add_right bytes.size i : bytes.data.size ≤ bytes.size + i)] at hall
  rwa [show bytes.size + i - bytes.data.size = i from Nat.add_sub_cancel_left _ _] at hall

/-- An address that a write does not reach keeps its byte. -/
theorem byteAt_write_of_outside {i : Nat} (h : i < position ∨ position + data.size ≤ i) :
    (m.write position data).byteAt i = m.byteAt i := by
  have hsize : data.data.size = data.size := ByteArray.size_data
  rw [byteAt_write, Patch.byteAt?_eq]
  dsimp only
  by_cases hle : position ≤ i
  · rw [if_pos hle, Array.getElem?_eq_none (by omega), Option.getD_none]
  · rw [if_neg hle, Option.getD_none]

/-- An address that a write reaches holds the byte that was written there. -/
theorem byteAt_write_of_inside {i : Nat} (hle : position ≤ i) (hlt : i < position + data.size) :
    data.data[i - position]? = some ((m.write position data).byteAt i) := by
  have hsize : data.data.size = data.size := ByteArray.size_data
  rw [byteAt_write, Patch.byteAt?_eq]
  dsimp only
  rw [if_pos hle, Array.getElem?_eq_getElem (by omega), Option.getD_some]

/-- Media that have the same byte some way apart have it after the same write that way apart. -/
theorem byteAt_write_add {other : Medium} {shift i : Nat}
    (h : m.byteAt i = other.byteAt (shift + i)) :
    (m.write position data).byteAt i =
      (other.write (shift + position) data).byteAt (shift + i) := by
  rw [byteAt_write, byteAt_write, Patch.byteAt?_eq, Patch.byteAt?_eq, h]
  simp only [Nat.add_le_add_iff_left, Nat.add_sub_add_left]

/-- A stretch that a write does not reach holds the same bytes as before. -/
theorem read_write_of_disjoint
    (h : address + count ≤ position ∨ position + data.size ≤ address) :
    (m.write position data).read address count = m.read address count := by
  refine read_eq_of_forall (size_read m address count) fun i hi => ?_
  rw [byteAt_write_of_outside (by omega), getElem?_read m address count i hi]

/-- A stretch within a write holds its part of what was written. -/
theorem read_write_of_subset (hle : position ≤ address)
    (hlt : address + count ≤ position + data.size) :
    (m.write position data).read address count =
      data.extract (address - position) (address - position + count) := by
  have hsize : data.data.size = data.size := ByteArray.size_data
  refine read_eq_of_forall (by rw [ByteArray.size_extract]; omega) fun i hi => ?_
  rw [← byteAt_write_of_inside (by omega) (by omega), ByteArray.data_extract,
    Array.getElem?_extract, if_pos (by omega)]
  congr 1
  omega

/-- Sectors that are written hold their part of it, other sectors what they held before. -/
theorem sector_write {size start sectors : Nat} (hsize : data.size = sectors * size) (n : Nat) :
    (m.write (start * size) data).sector size n =
      if start ≤ n ∧ n < start + sectors then Buffer.sector data size (n - start)
      else m.sector size n := by
  unfold sector
  by_cases hn : start ≤ n ∧ n < start + sectors
  · obtain ⟨k, rfl⟩ := Nat.exists_eq_add_of_le hn.1
    have hk := Nat.mul_le_mul_right size (by omega : k + 1 ≤ sectors)
    rw [Nat.add_mul, Nat.one_mul] at hk
    rw [if_pos hn, read_write_of_subset (by rw [Nat.add_mul]; omega)
      (by rw [Nat.add_mul]; omega), Nat.add_mul, Nat.add_sub_cancel_left, Nat.add_sub_cancel_left]
    unfold Buffer.sector
    rw [Nat.add_mul, Nat.one_mul]
  · rw [if_neg hn, read_write_of_disjoint]
    rw [hsize]
    by_cases hlt : n < start
    · have hmul := Nat.mul_le_mul_right size hlt
      rw [Nat.succ_mul] at hmul
      exact Or.inl hmul
    · have hmul := Nat.mul_le_mul_right size (by omega : start + sectors ≤ n)
      rw [Nat.add_mul] at hmul
      exact Or.inr hmul

/-- A stretch whose sectors hold the parts of a buffer holds the buffer. -/
theorem read_eq_of_sectors {size start sectors : Nat} (hsize : data.size = sectors * size)
    (h : ∀ k, k < sectors → m.sector size (start + k) = Buffer.sector data size k) :
    m.read (start * size) (sectors * size) = data := by
  refine read_eq_of_forall hsize fun i hi => ?_
  have hpos : 0 < size := Nat.pos_of_ne_zero fun hzero => by simp [hzero] at hi
  have hmod := Nat.mod_lt i hpos
  have hdiv : i / size < sectors := (Nat.div_lt_iff_lt_mul hpos).2 hi
  have hsplit := Nat.div_add_mod' i size
  have hnext : (i / size + 1) * size = i / size * size + size := Nat.succ_mul _ _
  have hend := Nat.mul_le_mul_right size (by omega : i / size + 1 ≤ sectors)
  have hdata : data.data.size = data.size := ByteArray.size_data
  have hbyte := getElem?_read m ((start + i / size) * size) size (i % size) hmod
  have hsector : (m.read ((start + i / size) * size) size).data[i % size]? =
      (Buffer.sector data size (i / size)).data[i % size]? :=
    congrArg (fun buffer : ByteArray => buffer.data[i % size]?) (h _ hdiv)
  rw [hsector, Buffer.sector, ByteArray.data_extract, Array.getElem?_extract,
    if_pos (by omega), hsplit] at hbyte
  rw [hbyte, Nat.add_mul, Nat.add_assoc, hsplit]

/-- Write stretches of sectors, one after the other. -/
def writeAll (m : Medium) (size : Nat) (contents : List (Nat × ByteArray)) : Medium :=
  contents.foldl (fun m c => m.write (c.1 * size) c.2) m

/-- Stretches are written one after the other. -/
theorem writeAll_cons (m : Medium) (size start : Nat) (data : ByteArray)
    (rest : List (Nat × ByteArray)) :
    m.writeAll size ((start, data) :: rest) = (m.write (start * size) data).writeAll size rest :=
  rfl

/-- Two lists of stretches are written one after the other. -/
theorem writeAll_append (m : Medium) (size : Nat) (first second : List (Nat × ByteArray)) :
    m.writeAll size (first ++ second) = (m.writeAll size first).writeAll size second :=
  List.foldl_append

/-- A sector that is written as a whole holds what was written. -/
theorem sector_write_one {size start : Nat} (hsize : data.size = size) (n : Nat) :
    (m.write (start * size) data).sector size n = if n = start then data else m.sector size n := by
  rw [sector_write (by rw [hsize, Nat.one_mul] : data.size = 1 * size)]
  by_cases hn : n = start
  · subst hn
    rw [if_pos ⟨Nat.le_refl n, Nat.lt_succ_self n⟩, if_pos rfl, Nat.sub_self]
    exact Buffer.sector_zero hsize
  · rw [if_neg hn, if_neg fun hin => hn (by omega)]

/-- Copies of a buffer that are written one after the other fill their sectors in turn. -/
theorem sector_writeAll_copies {size start sectors : Nat} (hsize : data.size = sectors * size)
    (copies n : Nat) :
    (m.writeAll size ((List.range copies).map fun copy =>
        (start + copy * sectors, data))).sector size n =
      if start ≤ n ∧ n < start + copies * sectors then
        Buffer.sector data size ((n - start) % sectors)
      else m.sector size n := by
  induction copies with
  | zero =>
    rw [if_neg (by omega)]
    rfl
  | succ copies ih =>
    rw [List.range_succ, List.map_append, writeAll_append, List.map_singleton, writeAll_cons]
    show ((_ : Medium).write _ _).sector size n = _
    rw [sector_write hsize, ih, Nat.add_mul, Nat.one_mul]
    by_cases hlast : start + copies * sectors ≤ n ∧ n < start + copies * sectors + sectors
    · have hmod : (n - start) % sectors = n - (start + copies * sectors) := by
        obtain ⟨k, rfl⟩ := Nat.exists_eq_add_of_le hlast.1
        rw [Nat.add_sub_cancel_left, Nat.add_assoc, Nat.add_sub_cancel_left,
          Nat.mul_add_mod_of_lt (by omega)]
      rw [if_pos hlast, if_pos ⟨by omega, by omega⟩, hmod]
    · rw [if_neg hlast]
      by_cases hin : start ≤ n ∧ n < start + copies * sectors
      · rw [if_pos hin, if_pos ⟨hin.1, by omega⟩]
      · rw [if_neg hin, if_neg fun hn => hlast ⟨by omega, by omega⟩]

end Medium

/-- The checks of a transfer on a device whose blocks are not empty. -/
theorem checkTransfer_eq {size total start length : Nat} (hsize : 0 < size) :
    checkTransfer size total start length =
      if length % size ≠ 0 then refuse (.partialBlocks length size)
      else if start + length / size ≤ total then .ok (length / size)
      else refuse (.pastEnd (length / size) start total) := by
  unfold checkTransfer
  rw [if_neg (Nat.ne_of_gt hsize)]
  by_cases hpartial : length % size ≠ 0
  · rw [if_pos hpartial, if_pos hpartial]
    rfl
  · rw [if_neg hpartial, if_neg hpartial]
    rfl

/-- A transfer of whole sectors of a device passes. -/
theorem checkTransfer_of_fits {size total start sectors : Nat} (hsize : 0 < size)
    (hfit : start + sectors ≤ total) :
    checkTransfer size total start (sectors * size) = .ok sectors := by
  rw [checkTransfer_eq hsize, if_neg (by simp), Nat.mul_div_cancel sectors hsize, if_pos hfit]

/-- A transfer passes just if its bytes are whole blocks of the device. -/
theorem checkTransfer_eq_ok_iff {size total start length count : Nat} (hsize : 0 < size) :
    checkTransfer size total start length = .ok count ↔
      length = count * size ∧ start + count ≤ total := by
  constructor
  · intro h
    rw [checkTransfer_eq hsize] at h
    split at h
    · cases h
    · rename_i hwhole
      split at h
      · rename_i hfit
        cases h
        have hdvd := Nat.dvd_of_mod_eq_zero (Decidable.not_not.1 hwhole)
        exact ⟨(Nat.div_mul_cancel hdvd).symm, hfit⟩
      · cases h
  · rintro ⟨rfl, hfit⟩
    exact checkTransfer_of_fits hsize hfit

/-- A transfer passes just if it is of whole blocks and its bytes lie on the device. -/
theorem exists_checkTransfer_eq_ok_iff {size total start length : Nat} (hsize : 0 < size) :
    (∃ count, checkTransfer size total start length = .ok count) ↔
      size ∣ length ∧ start * size + length ≤ total * size := by
  simp only [checkTransfer_eq_ok_iff hsize]
  constructor
  · rintro ⟨count, rfl, hfit⟩
    have hmul := Nat.mul_le_mul_right size hfit
    rw [Nat.add_mul] at hmul
    exact ⟨Nat.dvd_mul_left size count, hmul⟩
  · rintro ⟨⟨count, rfl⟩, hfit⟩
    rw [Nat.mul_comm size count, ← Nat.add_mul] at hfit
    exact ⟨count, Nat.mul_comm size count, Nat.le_of_mul_le_mul_right hfit hsize⟩

/-- A transfer that does not pass is refused for its bytes or for its end. -/
theorem checkTransfer_eq_error {size total start length : Nat} (hsize : 0 < size)
    {stop : Stop TransferError} (h : checkTransfer size total start length = .error stop) :
    stop = .refused (.partialBlocks length size) ∨
      stop = .refused (.pastEnd (length / size) start total) := by
  rw [checkTransfer_eq hsize] at h
  split at h
  · cases h
    exact Or.inl rfl
  · split at h
    · cases h
    · cases h
      exact Or.inr rfl

/-- The bytes of whole sectors of a disk lie on it. -/
theorem RamDisk.position_add_le {d : RamDisk} {start count : Nat}
    (hfit : start + count ≤ d.sectorCount) :
    start * d.sectorSize.toNat + count * d.sectorSize.toNat ≤ d.medium.size := by
  rw [← Nat.add_mul, ← d.sectorCount_mul]
  exact Nat.mul_le_mul_right _ hfit

/-- Whole sectors of a disk are read unless one of them cannot be. -/
theorem RamDisk.read_of_fits {d : RamDisk} {start sectors : Nat}
    (hfit : start + sectors ≤ d.sectorCount) :
    d.read start (sectors * d.sectorSize.toNat) =
      (d.unreadable.firstFrom start sectors).elim
        (.ok (d.medium.read (start * d.sectorSize.toNat) (sectors * d.sectorSize.toNat)))
        fun bad => refuse (.unreadable bad) := by
  unfold read
  rw [checkTransfer_of_fits d.sectorSize_pos hfit, ok_bind]
  cases d.unreadable.firstFrom start sectors <;> rfl

theorem RamDisk.toNat_512_pos : 0 < (512 : UInt32).toNat := by decide

/-- A disk of sectors of 512 bytes of one repeated byte, some of which cannot be read and some of which
cannot be written. -/
def RamDisk.worn (sectors : Nat) (h : sectors < 2 ^ 54) (fill : UInt8)
    (unreadable unwritable : List Nat) : RamDisk where
  sectorSize := 512
  medium := Medium.filled (sectors * 512) fill
  mediaType := .hard
  readOnly := false
  mediaPresent := true
  unreadable := SectorSet.ofList unreadable
  unwritable := SectorSet.ofList unwritable
  log := []
  sectorSize_pos := toNat_512_pos
  sectorSize_dvd := Nat.dvd_mul_left 512 sectors
  size_lt := by
    show sectors * 512 < 2 ^ 63
    omega

/-- The disk has the sectors that it was made with. -/
theorem RamDisk.sectorCount_worn (sectors : Nat) (h : sectors < 2 ^ 54) (fill : UInt8)
    (unreadable unwritable : List Nat) :
    (worn sectors h fill unreadable unwritable).sectorCount = sectors :=
  Nat.mul_div_cancel sectors (by decide : 0 < 512)

end FatVolume
