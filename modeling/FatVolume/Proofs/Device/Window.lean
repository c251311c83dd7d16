import FatVolume.Device.Basic
import FatVolume.Proofs.Layout.Clusters
import FatVolume.Proofs.Volume.Written

/-!
# Windows of disks in memory

A chain of windows selects some sectors of a disk (`Device.Selects`), and a disk of its own that holds
the same sectors is an excerpt of it (`RamDisk.IsExcerpt`). The chain says the same of itself as the
excerpt, and a read through it ends as one of the excerpt does (`Selects.resembles`). A write through
the chain does to the disk what it does to the excerpt (`Selects.write`): both fail for the same
reason, with sectors counted from the start of the disk, or both hold what was written.
-/

namespace FatVolume

/-- The same failure on a disk on which a device starts at sector `a`. -/
def TransferError.shifted (a : Nat) : TransferError → TransferError
  | .unreadable sector => .unreadable (a + sector)
  | .unwritable sector => .unwritable (a + sector)
  | e => e

section Transfer

variable {size total start length count a : Nat}

/-- A transfer that passes for a window passes for what the window belongs to. -/
theorem checkTransfer_of_window {n : Nat} (hsize : 0 < size) (hfit : a + n ≤ total)
    (h : checkTransfer size n start length = .ok count) :
    checkTransfer size total (a + start) length = .ok count := by
  obtain ⟨hlength, hle⟩ := (checkTransfer_eq_ok_iff hsize).1 h
  exact (checkTransfer_eq_ok_iff hsize).2 ⟨hlength, by omega⟩

/-- A transfer that does not pass has no sector that failed. -/
theorem map_shifted_of_checkTransfer (hsize : 0 < size) {stop : Stop TransferError}
    (h : checkTransfer size total start length = .error stop) :
    stop.map (TransferError.shifted a) = stop := by
  obtain rfl | rfl := checkTransfer_eq_error hsize h
  · rfl
  · rfl

end Transfer

namespace SectorSet

/-- The members from `a` on, `n` of them at most, counted from there. -/
def excerpt (set : SectorSet) (a n : Nat) : SectorSet :=
  ofList ((List.range n).filter fun s => a + s ∈ set)

/-- The members of an excerpt. -/
theorem mem_excerpt {set : SectorSet} {a n s : Nat} (h : s < n) :
    s ∈ set.excerpt a n ↔ a + s ∈ set := by
  unfold excerpt
  rw [mem_ofList, List.mem_filter, List.mem_range, decide_eq_true_eq, and_iff_right h]

end SectorSet

namespace Device

/-- A chain of windows, of any length, through which the sectors of a disk from `a` on are seen, `n`
of them. -/
inductive Selects (p : RamDisk) : Device → Nat → Nat → Prop
  /-- The disk shows all of its sectors. -/
  | whole : Selects p (ram p) 0 p.sectorCount
  /-- A window of a chain shows some of the sectors that the chain shows. -/
  | window {d w : Device} {a n start count : Nat} (chain : Selects p d a n)
    (made : d.window? start count = .ok w) : Selects p w (a + start) count

/-- A device says the same of itself as another one, and reads end as they do there, with failures
told by `f`. -/
structure Resembles (f : TransferError → TransferError) (d e : Device) : Prop where
  /-- The blocks have as many bytes. -/
  blockSize : d.blockSize = e.blockSize
  /-- There are as many blocks. -/
  blockCount : d.blockCount = e.blockCount
  /-- The media are of the same type. -/
  mediaType : d.mediaType = e.mediaType
  /-- Both refuse writes, or neither. -/
  readOnly : d.readOnly = e.readOnly
  /-- A medium is present in both, or in neither. -/
  mediaPresent : d.mediaPresent = e.mediaPresent
  /-- The same bytes are read, or none. -/
  read : ∀ start length, d.read start length = Guarded.widen f (e.read start length)

variable {p : RamDisk} {d w : Device} {a n start count : Nat}

/-- A window is made if it lies on the device. -/
theorem window?_eq_ok_iff :
    d.window? start count = .ok w ↔ start + count ≤ d.blockCount ∧ w = window d start count := by
  unfold window?
  by_cases h : start + count ≤ d.blockCount
  · rw [if_pos h, and_iff_right h, Except.ok.injEq, eq_comm]
  · rw [if_neg h]
    exact iff_of_false nofun fun hn => h hn.1

namespace Selects

/-- What a window says as its parent does, a chain says as the disk does. -/
theorem apply_eq {α : Type} (h : Selects p d a n) (f : Device → α)
    (hf : ∀ parent first count, f (.window parent first count) = f parent) : f d = f (ram p) := by
  induction h with
  | whole => rfl
  | window chain made ih =>
    obtain ⟨-, rfl⟩ := window?_eq_ok_iff.1 made
    exact (hf _ _ _).trans ih

/-- The blocks of a chain are the sectors of the disk. -/
theorem blockSize_eq (h : Selects p d a n) : d.blockSize = p.sectorSize :=
  h.apply_eq blockSize fun _ _ _ => rfl

theorem blockCount_eq (h : Selects p d a n) : d.blockCount = n := by
  cases h with
  | whole => rfl
  | window chain made =>
    obtain ⟨-, rfl⟩ := window?_eq_ok_iff.1 made
    rfl

/-- The sectors that a chain selects are there. -/
theorem le_sectorCount (h : Selects p d a n) : a + n ≤ p.sectorCount := by
  induction h with
  | whole => exact (Nat.zero_add _).le
  | window chain made ih =>
    obtain ⟨hle, -⟩ := window?_eq_ok_iff.1 made
    rw [chain.blockCount_eq] at hle
    omega

/-- A chain reads what the disk reads, as far as its sectors reach. Each window shifts by its first
sector what the chain below it reads. -/
theorem read_eq (h : Selects p d a n) (start length : Nat) :
    d.read start length = checkTransfer p.sectorSize.toNat n start length >>= fun _ =>
      p.read (a + start) length := by
  induction h generalizing start with
  | whole =>
    rw [Nat.zero_add]
    change p.read start length = _
    cases hcheck : checkTransfer p.sectorSize.toNat p.sectorCount start length with
    | error stop =>
      unfold RamDisk.read
      rw [hcheck]
      rfl
    | ok count => rfl
  | window chain made ih =>
    obtain ⟨hle, rfl⟩ := window?_eq_ok_iff.1 made
    rw [chain.blockCount_eq] at hle
    unfold Device.read
    rw [chain.blockSize_eq]
    cases hcheck : checkTransfer p.sectorSize.toNat _ start length with
    | error stop => rfl
    | ok count =>
      rw [ok_bind, ok_bind, ih, checkTransfer_of_window p.sectorSize_pos hle hcheck, ok_bind,
        Nat.add_assoc]

end Selects

end Device

namespace RamDisk

/-- A disk of its own that is like the sectors of another one from `a` on, `n` of them. -/
structure IsExcerpt (q p : RamDisk) (a n : Nat) : Prop where
  /-- The sectors have as many bytes. -/
  sectorSize : q.sectorSize = p.sectorSize
  /-- There are as many sectors. -/
  sectorCount : q.sectorCount = n
  /-- The sectors are there. -/
  le_sectorCount : a + n ≤ p.sectorCount
  /-- They hold the same bytes. -/
  byteAt : ∀ i, i < n * p.sectorSize.toNat →
    q.medium.byteAt i = p.medium.byteAt (a * p.sectorSize.toNat + i)
  /-- The disk reports the same type. -/
  mediaType : q.mediaType = p.mediaType
  /-- The disk takes writes if the other one does. -/
  readOnly : q.readOnly = p.readOnly
  /-- A medium is present if it is in the other one. -/
  mediaPresent : q.mediaPresent = p.mediaPresent
  /-- The same sectors cannot be read. -/
  unreadable : ∀ s, s < n → (s ∈ q.unreadable ↔ a + s ∈ p.unreadable)
  /-- The same sectors cannot be written. -/
  unwritable : ∀ s, s < n → (s ∈ q.unwritable ↔ a + s ∈ p.unwritable)

/-- What was written to an excerpt was written to the disk, and nothing else was. -/
structure Follows (p p' q q' : RamDisk) (a n : Nat) : Prop where
  /-- The one is still an excerpt of the other. -/
  excerpt : q'.IsExcerpt p' a n
  /-- The disk has other contents and another log at most. -/
  rewritten : p.IsRewritten p'
  /-- Other sectors hold the bytes from before. -/
  outside : ∀ i, i < a * p.sectorSize.toNat ∨ (a + n) * p.sectorSize.toNat ≤ i →
    p'.medium.byteAt i = p.medium.byteAt i
  /-- The same writes were logged, with sectors counted from the start of the disk. -/
  log : ∃ new, q'.log = q.log ++ new ∧ p'.log = p.log ++ new.map fun entry => (a + entry.1, entry.2)

variable {p p' p'' q q' q'' : RamDisk} {a n start count length : Nat} {data : ByteArray}

theorem IsExcerpt.follows_self (h : q.IsExcerpt p a n) : Follows p p q q a n where
  excerpt := h
  rewritten := .refl p
  outside := fun _ _ => rfl
  log := ⟨[], by simp⟩

theorem Follows.trans (h : Follows p p' q q' a n) (h' : Follows p' p'' q' q'' a n) :
    Follows p p'' q q'' a n where
  excerpt := h'.excerpt
  rewritten := h.rewritten.trans h'.rewritten
  outside := fun i hi => by
    have hsize := h.rewritten.sectorSize_eq
    rw [h'.outside i (by rwa [hsize]), h.outside i hi]
  log := by
    obtain ⟨new, hq, hp⟩ := h.log
    obtain ⟨new', hq', hp'⟩ := h'.log
    refine ⟨new ++ new', ?_, ?_⟩
    · rw [hq', hq, List.append_assoc]
    · rw [hp', hp, List.map_append, List.append_assoc]

/-- A disk of its own that holds some sectors of a disk. -/
def excerpt (p : RamDisk) (a n : Nat) (h : a + n ≤ p.sectorCount) : RamDisk where
  sectorSize := p.sectorSize
  medium := .ofBytes (p.medium.read (a * p.sectorSize.toNat) (n * p.sectorSize.toNat))
  mediaType := p.mediaType
  readOnly := p.readOnly
  mediaPresent := p.mediaPresent
  unreadable := p.unreadable.excerpt a n
  unwritable := p.unwritable.excerpt a n
  log := []
  sectorSize_pos := p.sectorSize_pos
  sectorSize_dvd := ⟨n, (Medium.size_read _ _ _).trans (Nat.mul_comm _ _)⟩
  size_lt := by
    have hmul := Nat.mul_le_mul_right p.sectorSize.toNat ((Nat.le_add_left n a).trans h)
    rw [p.sectorCount_mul] at hmul
    exact (Medium.size_read _ _ _).trans_lt (hmul.trans_lt p.size_lt)

/-- A disk that holds some sectors of a disk is an excerpt. -/
theorem isExcerpt_excerpt (h : a + n ≤ p.sectorCount) : (p.excerpt a n h).IsExcerpt p a n where
  sectorSize := rfl
  sectorCount := by
    have hsize : (p.excerpt a n h).medium.size = n * p.sectorSize.toNat := Medium.size_read _ _ _
    unfold sectorCount
    rw [hsize]
    exact Nat.mul_div_cancel n p.sectorSize_pos
  le_sectorCount := h
  byteAt := fun i hi => by
    have hread := Medium.getElem?_read p.medium (a * p.sectorSize.toNat) _ i hi
    have hmade := Medium.byteAt_ofBytes (hi.trans_eq
      (Medium.size_read p.medium (a * p.sectorSize.toNat) _).symm)
    exact Option.some.inj (hmade.symm.trans hread)
  mediaType := rfl
  readOnly := rfl
  mediaPresent := rfl
  unreadable := fun _ hs => SectorSet.mem_excerpt hs
  unwritable := fun _ hs => SectorSet.mem_excerpt hs

namespace IsExcerpt

/-- An excerpt reads what the disk reads from its sectors. Each window shifts by its first sector
what the chain below it reads. -/
theorem read_eq (h : q.IsExcerpt p a n) (start length : Nat) :
    (checkTransfer p.sectorSize.toNat n start length >>= fun _ => p.read (a + start) length) =
      Guarded.widen (TransferError.shifted a) (q.read start length) := by
  unfold RamDisk.read
  rw [h.sectorSize, h.sectorCount]
  cases hcheck : checkTransfer p.sectorSize.toNat n start length with
  | error stop =>
    rw [error_bind, error_bind, widen_error, map_shifted_of_checkTransfer p.sectorSize_pos hcheck]
  | ok count =>
    obtain ⟨hlength, hle⟩ := (checkTransfer_eq_ok_iff p.sectorSize_pos).1 hcheck
    have hfirst : p.unreadable.firstFrom (a + start) count =
        (q.unreadable.firstFrom start count).map (a + ·) :=
      SectorSet.firstFrom_add fun s _ hs => h.unreadable s (by omega)
    rw [ok_bind, ok_bind, checkTransfer_of_window p.sectorSize_pos h.le_sectorCount hcheck, ok_bind,
      hfirst]
    cases q.unreadable.firstFrom start count with
    | some bad => rfl
    | none =>
      have hbytes : p.medium.read ((a + start) * p.sectorSize.toNat) length =
          q.medium.read (start * p.sectorSize.toNat) length := by
        refine Medium.read_eq_of_forall (Medium.size_read _ _ _) fun i hi => ?_
        have hmul := Nat.mul_le_mul_right p.sectorSize.toNat hle
        rw [Nat.add_mul] at hmul
        rw [Medium.getElem?_read _ _ _ _ hi, h.byteAt _ (by omega), Nat.add_mul, Nat.add_assoc]
      exact congrArg Except.ok hbytes

/-- A transfer that does not pass writes nothing to an excerpt. -/
theorem write_of_error (h : q.IsExcerpt p a n) (hready : p.readOnly = false)
    {stop : Stop TransferError}
    (hcheck : checkTransfer p.sectorSize.toNat n start data.size = .error stop) :
    q.write start data = (.error stop, q) := by
  have hstop : q.checkWrite start data.size = .error stop :=
    checkWrite_of_error (h.readOnly.trans hready) (by rw [h.sectorSize, h.sectorCount, hcheck])
  unfold RamDisk.write
  rw [hstop]

/-- A write that both take is on both. -/
theorem follows_of_takes (h : q.IsExcerpt p a n) (hlength : data.size = count * p.sectorSize.toNat)
    (hle : start + count ≤ n) (hp : p.Takes p' (a + start) count data)
    (hq : q.Takes q' start count data) : Follows p p' q q' a n where
  excerpt := {
    sectorSize := by rw [hq.rewritten.sectorSize_eq, h.sectorSize, hp.rewritten.sectorSize_eq]
    sectorCount := hq.rewritten.sectorCount_eq.trans h.sectorCount
    le_sectorCount := h.le_sectorCount.trans_eq hp.rewritten.sectorCount_eq.symm
    byteAt := fun i hi => by
      rw [hp.rewritten.sectorSize_eq] at hi ⊢
      rw [hq.medium, hp.medium, h.sectorSize, Nat.add_mul]
      exact Medium.byteAt_write_add (h.byteAt i hi)
    mediaType := by rw [hq.rewritten.mediaType_eq, h.mediaType, hp.rewritten.mediaType_eq]
    readOnly := by rw [hq.rewritten.readOnly_eq, h.readOnly, hp.rewritten.readOnly_eq]
    mediaPresent := by
      rw [hq.rewritten.mediaPresent_eq, h.mediaPresent, hp.rewritten.mediaPresent_eq]
    unreadable := by
      rw [hq.rewritten.unreadable_eq, hp.rewritten.unreadable_eq]
      exact h.unreadable
    unwritable := by
      rw [hq.rewritten.unwritable_eq, hp.rewritten.unwritable_eq]
      exact h.unwritable }
  rewritten := hp.rewritten
  outside := fun i hi => by
    have hmul := Nat.mul_le_mul_right p.sectorSize.toNat hle
    rw [Nat.add_mul] at hmul hi
    rw [hp.medium, Nat.add_mul]
    exact Medium.byteAt_write_of_outside (by omega)
  log := ⟨[(start, count)], hq.log, hp.log⟩

/-- A transfer that passes writes to the disk what it writes to an excerpt. -/
theorem write_of_ok (h : q.IsExcerpt p a n) (hready : p.readOnly = false)
    (hcheck : checkTransfer p.sectorSize.toNat n start data.size = .ok count) :
    (p.write (a + start) data).1 =
        Guarded.widen (TransferError.shifted a) (q.write start data).1 ∧
      Follows p (p.write (a + start) data).2 q (q.write start data).2 a n := by
  obtain ⟨hlength, hle⟩ := (checkTransfer_eq_ok_iff p.sectorSize_pos).1 hcheck
  have hfirst : p.unwritable.firstFrom (a + start) count =
      (q.unwritable.firstFrom start count).map (a + ·) :=
    SectorSet.firstFrom_add fun s _ hs => h.unwritable s (by omega)
  have hq := checkWrite_of_ok (h.readOnly.trans hready)
    (by rw [h.sectorSize, h.sectorCount, hcheck] :
      checkTransfer q.sectorSize.toNat q.sectorCount start data.size = .ok count)
  have hp := checkWrite_of_ok hready (checkTransfer_of_window p.sectorSize_pos h.le_sectorCount hcheck)
  rw [hfirst] at hp
  cases hbad : q.unwritable.firstFrom start count with
  | some bad =>
    rw [hbad] at hq hp
    unfold RamDisk.write
    rw [hq, hp]
    exact ⟨rfl, h.follows_self⟩
  | none =>
    rw [hbad] at hq hp
    obtain ⟨p', hwritten, hdisk⟩ := write_of_checkWrite hp
    obtain ⟨q', hwritten', hexcerpt⟩ := write_of_checkWrite hq
    rw [hwritten, hwritten']
    exact ⟨rfl, h.follows_of_takes hlength hle hdisk hexcerpt⟩

end IsExcerpt

end RamDisk

namespace Device.Selects

open RamDisk

variable {p q : RamDisk} {d : Device} {a n start count : Nat} {data : ByteArray}

/-- A chain of windows is like a disk of its own that holds the sectors it selects. -/
theorem resembles (h : Selects p d a n) (hq : q.IsExcerpt p a n) :
    d.Resembles (TransferError.shifted a) (ram q) where
  blockSize := h.blockSize_eq.trans hq.sectorSize.symm
  blockCount := h.blockCount_eq.trans hq.sectorCount.symm
  mediaType := (h.apply_eq mediaType fun _ _ _ => rfl).trans hq.mediaType.symm
  readOnly := (h.apply_eq readOnly fun _ _ _ => rfl).trans hq.readOnly.symm
  mediaPresent := (h.apply_eq mediaPresent fun _ _ _ => rfl).trans hq.mediaPresent.symm
  read := fun start length => (h.read_eq start length).trans (hq.read_eq start length)

/-- A transfer that does not pass writes nothing through a chain. -/
theorem write_of_error (h : Selects p d a n) (hready : p.readOnly = false)
    {stop : Stop TransferError}
    (hcheck : checkTransfer p.sectorSize.toNat n start data.size = .error stop) :
    d.write start data = (.error stop, d) := by
  cases h with
  | whole =>
    unfold Device.write RamDisk.write
    rw [checkWrite_of_error hready hcheck]
  | window chain made =>
    obtain ⟨-, rfl⟩ := window?_eq_ok_iff.1 made
    unfold Device.write
    rw [chain.blockSize_eq, hcheck]

/-- A transfer that passes writes to the disk what it writes through a chain. -/
theorem write_of_ok (h : Selects p d a n)
    (hcheck : checkTransfer p.sectorSize.toNat n start data.size = .ok count) :
    (d.write start data).1 = (p.write (a + start) data).1 ∧
      Selects (p.write (a + start) data).2 (d.write start data).2 a n := by
  induction h generalizing start with
  | whole =>
    rw [Nat.zero_add]
    refine ⟨rfl, ?_⟩
    have hcount := (p.isRewritten_write start data).sectorCount_eq
    have hwhole := whole (p := (p.write start data).2)
    rwa [hcount] at hwhole
  | @window d w a n first size chain made ih =>
    obtain ⟨hle, rfl⟩ := window?_eq_ok_iff.1 made
    rw [chain.blockCount_eq] at hle
    obtain ⟨hresult, hchain⟩ := ih (checkTransfer_of_window p.sectorSize_pos hle hcheck)
    unfold Device.write
    rw [chain.blockSize_eq, hcheck, Nat.add_assoc]
    refine ⟨hresult, hchain.window (window?_eq_ok_iff.2 ⟨?_, rfl⟩)⟩
    rwa [hchain.blockCount_eq]

/-- A write through a chain of windows ends as one to an excerpt, and does the same. -/
theorem write (h : Selects p d a n) (hq : q.IsExcerpt p a n) (hready : p.readOnly = false)
    (start : Nat) (data : ByteArray) :
    (d.write start data).1 = Guarded.widen (TransferError.shifted a) (q.write start data).1 ∧
      ∃ p', Selects p' (d.write start data).2 a n ∧
        RamDisk.Follows p p' q (q.write start data).2 a n := by
  cases hcheck : checkTransfer p.sectorSize.toNat n start data.size with
  | error stop =>
    rw [h.write_of_error hready hcheck, hq.write_of_error hready hcheck, widen_error,
      map_shifted_of_checkTransfer p.sectorSize_pos hcheck]
    exact ⟨rfl, p, h, hq.follows_self⟩
  | ok count =>
    obtain ⟨hresult, hchain⟩ := h.write_of_ok hcheck
    obtain ⟨hsame, hfollows⟩ := hq.write_of_ok hready hcheck
    exact ⟨hresult.trans hsame, _, hchain, hfollows⟩

end Device.Selects

end FatVolume
