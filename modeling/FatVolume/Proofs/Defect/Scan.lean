import FatVolume.Proofs.Device.Medium
import FatVolume.Proofs.Layout.Clusters

/-!
# What a scan finds

A scan reads batches and goes back to single blocks where a batch cannot be read. The batches make no
difference: the same blocks are found, with the same remarks, as by reading one block after the other
(`batches_eq_blocks`). A plain scan of blocks finds every block with a sector that cannot be read
(`Scan.IsBad`), unless the first of them starts before the data.
-/

namespace FatVolume.Scan

/-- The first sector of a block, blocks counted from the start of the device. -/
def blockStart (l : Layout) (k : Nat) : Nat := k * blockSectors l.sectorSize

/-- The sectors of a block, as far as the last cluster. -/
def block (l : Layout) (k : Nat) : Finset Nat :=
  Finset.Ico (blockStart l k) (min (blockStart l (k + 1)) l.dataEnd)

/-- A block with a sector that cannot be read. -/
def IsBad (d : RamDisk) (l : Layout) (k : Nat) : Prop := ∃ s ∈ block l k, s ∈ d.unreadable

variable {d : RamDisk} {l : Layout} {start mid last k s : Nat} {bad : SectorSet}

/-- A sector lies in the block that its number gives. -/
theorem mem_block : s ∈ block l k ↔ s / blockSectors l.sectorSize = k ∧ s < l.dataEnd := by
  have hpos := blockSectors_pos l.sectorSize
  unfold block blockStart
  rw [Finset.mem_Ico, Nat.div_eq_iff hpos, Nat.succ_mul]
  omega

/-- A block is bad if it is that of a sector that cannot be read. -/
theorem isBad_iff :
    IsBad d l k ↔ ∃ s ∈ d.unreadable, s / blockSectors l.sectorSize = k ∧ s < l.dataEnd := by
  unfold IsBad
  simp only [mem_block, and_comm]

/-- A block inside of a stretch of whole blocks is not cut by the end of the stretch. -/
theorem min_blockSectors (hlt : start < mid) (hmid : mid ≤ last)
    (hblock : blockSectors l.sectorSize ∣ mid - start ∨ mid = last) :
    min (blockSectors l.sectorSize) (last - start) =
      min (blockSectors l.sectorSize) (mid - start) := by
  rcases hblock with hdvd | rfl
  · have := Nat.le_of_dvd (by omega) hdvd
    omega
  · rfl

/-- A scan of blocks can be taken up again at the end of any block. The induction is on the blocks
before `mid`: both scans take the same first block, and go on alike whether it can be read or not.
-/
theorem blocks_append (e : Device) {start mid last : Nat} (hstart : start ≤ mid) (hmid : mid ≤ last)
    (hblock : blockSectors l.sectorSize ∣ mid - start ∨ mid = last) (bad : SectorSet) :
    blocks e l start last bad = blocks e l start mid bad >>= blocks e l mid last := by
  have hrest : ∀ start, blockSectors l.sectorSize ∣ mid - start ∨ mid = last →
      blockSectors l.sectorSize ∣
          mid - (start + min (blockSectors l.sectorSize) (mid - start)) ∨ mid = last := by
    rintro start (hdvd | hlast)
    · left
      by_cases hle : blockSectors l.sectorSize ≤ mid - start
      · rw [Nat.min_eq_left hle, ← Nat.sub_sub]
        exact Nat.dvd_sub hdvd (Nat.dvd_refl _)
      · rw [Nat.min_eq_right (by omega), ← Nat.sub_sub, Nat.sub_self]
        exact Nat.dvd_zero _
    · exact Or.inr hlast
  fun_induction blocks e l start mid bad with
  | case1 start bad hlt count data hread ih =>
    rw [blocks, dif_pos (by omega)]
    dsimp only
    rw [min_blockSectors hlt hmid hblock, hread]
    exact ih (by omega) (hrest start hblock)
  | case2 start bad hlt count fault hread =>
    rw [blocks, dif_pos (by omega)]
    dsimp only
    rw [min_blockSectors hlt hmid hblock, hread]
    rfl
  | case3 start bad hlt count reason hread ih =>
    rw [blocks, dif_pos (by omega)]
    dsimp only
    rw [min_blockSectors hlt hmid hblock, hread]
    dsimp only
    rw [bind_assoc]
    refine congrArg _ (funext fun _ => ?_)
    split
    · rfl
    · exact ih (by omega) (hrest start hblock)
  | case4 start bad hge =>
    rw [pure_bind, show start = mid by omega]

theorem blocks_of_ge {e : Device} (h : last ≤ start) : blocks e l start last bad = pure bad := by
  rw [blocks, dif_neg (Nat.not_lt.2 h)]

/-- A scan cannot start after its end. -/
theorem blocks_min (e : Device) (start last : Nat) (bad : SectorSet) :
    blocks e l (min start last) last bad = blocks e l start last bad := by
  rcases Nat.le_total start last with h | h
  · rw [Nat.min_eq_left h]
  · rw [Nat.min_eq_right h, blocks_of_ge (Nat.le_refl _), blocks_of_ge h]

/-- Blocks follow one another. -/
theorem blockStart_le_succ (l : Layout) (k : Nat) : blockStart l k ≤ blockStart l (k + 1) :=
  Nat.mul_le_mul_right _ (Nat.le_succ k)

/-- The scan of a block is followed by that of the next one. -/
theorem blocks_succ (e : Device) (h : blockStart l k < l.dataEnd) :
    blocks e l (blockStart l k) l.dataEnd bad =
      blocks e l (blockStart l k) (min (blockStart l (k + 1)) l.dataEnd) bad >>=
        blocks e l (blockStart l (k + 1)) l.dataEnd := by
  have hnext : blockStart l (k + 1) - blockStart l k = blockSectors l.sectorSize := by
    unfold blockStart
    rw [Nat.succ_mul, Nat.add_sub_cancel_left]
  have hle := blockStart_le_succ l k
  rw [blocks_append e (show blockStart l k ≤ min (blockStart l (k + 1)) l.dataEnd by omega)
    (by omega)]
  · exact congrArg _ (funext fun _ => blocks_min e _ _ _)
  · rcases Nat.le_total (blockStart l (k + 1)) l.dataEnd with h | h
    · left
      rw [Nat.min_eq_left h, hnext]
    · exact Or.inr (Nat.min_eq_right h)

section Ram

/-- A stretch of a disk is read just if each of its sectors can be. -/
theorem read_eq_ok_iff (hsize : d.sectorSize.toNat = l.sectorSize)
    (hfit : start + k ≤ d.sectorCount) :
    (∃ data, (Device.ram d).read start (k * l.sectorSize) = .ok data) ↔
      ∀ s ∈ d.unreadable, start ≤ s → start + k ≤ s := by
  show (∃ data, d.read start (k * l.sectorSize) = .ok data) ↔ _
  rw [← hsize, RamDisk.read_of_fits hfit, ← SectorSet.firstFrom_eq_none_iff]
  cases d.unreadable.firstFrom start k with
  | none => exact iff_of_true ⟨_, rfl⟩ rfl
  | some bad => exact iff_of_false (fun ⟨_, h⟩ => refuse_ne_ok _ _ h) nofun

/-- Reading a stretch that a disk has never breaks down. -/
theorem read_ne_fault (hsize : d.sectorSize.toNat = l.sectorSize)
    (hfit : start + k ≤ d.sectorCount) (cause : Fault) :
    (Device.ram d).read start (k * l.sectorSize) ≠ .error (.fault cause) := by
  show d.read start (k * l.sectorSize) ≠ _
  rw [← hsize, RamDisk.read_of_fits hfit]
  cases d.unreadable.firstFrom start k <;> nofun

/-- No block is found in a stretch of which every sector can be read. -/
theorem blocks_of_readable (hsize : d.sectorSize.toNat = l.sectorSize)
    (hlast : last ≤ d.sectorCount) (hread : ∀ s ∈ d.unreadable, start ≤ s → last ≤ s)
    (bad : SectorSet) : blocks (.ram d) l start last bad = pure bad := by
  fun_induction blocks (.ram d) l start last bad with
  | case1 start bad hlt count data hok ih => exact ih fun s hs hle => hread s hs (by omega)
  | case2 start bad hlt count fault hfault =>
    exact absurd hfault (read_ne_fault hsize (by omega) fault)
  | case3 start bad hlt count reason hrefused ih =>
    obtain ⟨data, hok⟩ := (read_eq_ok_iff hsize (by omega : start + count ≤ d.sectorCount)).2
      fun s hs hle => by
        have := hread s hs hle
        omega
    rw [hok] at hrefused
    cases hrefused
  | case4 start bad hge => rfl

/-- Either a block of a list has whole sectors, and a scan reads just as many at once, or a sector has
whole blocks, and a scan reads single sectors. -/
theorem blockSectors_cases {sectorSize : Nat} (h : Layout.IsSectorSize sectorSize) :
    sectorSize * blockSectors sectorSize = blockBytes ∨
      blockBytes ∣ sectorSize ∧ blockSectors sectorSize = 1 := by
  have hpower : IsPowerOfTwo blockBytes := by decide
  unfold blockSectors
  rcases Nat.lt_or_ge blockBytes sectorSize with hlt | hle
  · right
    rw [Nat.div_eq_of_lt hlt]
    exact ⟨hpower.dvd_of_le h.1 (Nat.le_of_lt hlt), rfl⟩
  · left
    rw [Nat.max_eq_right (Nat.div_pos hle h.1.pos)]
    exact Nat.mul_div_cancel' (h.1.dvd_of_le hpower hle)

/-- A batch is a number of whole blocks. -/
theorem blockSectors_dvd_batchSectors {sectorSize : Nat} (h : Layout.IsSectorSize sectorSize) :
    blockSectors sectorSize ∣ batchSectors sectorSize := by
  rcases blockSectors_cases h with hwhole | ⟨-, hsingle⟩
  · have hbytes : batchBytes = sectorSize * (16 * blockSectors sectorSize) := by
      rw [Nat.mul_left_comm, hwhole]
      rfl
    have hbatch : batchSectors sectorSize = 16 * blockSectors sectorSize := by
      unfold batchSectors
      rw [hbytes, Nat.mul_div_cancel_left _ h.1.pos]
      omega
    rw [hbatch]
    exact Nat.dvd_mul_left _ _
  · rw [hsingle]
    exact Nat.one_dvd _

/-- **Batches make no difference.** A scan finds the same in batches as block by block, with the
same remarks. Every batch ends where a block ends, or where the scan does. -/
theorem batches_eq_blocks (hblock : blockSectors l.sectorSize ∣ batchSectors l.sectorSize)
    (hsize : d.sectorSize.toNat = l.sectorSize) (hlast : last ≤ d.sectorCount) (bad : SectorSet) :
    batches (.ram d) l start last bad = blocks (.ram d) l start last bad := by
  have hwhole : ∀ start, blockSectors l.sectorSize ∣
        start + min (batchSectors l.sectorSize) (last - start) - start ∨
      start + min (batchSectors l.sectorSize) (last - start) = last ∨ last ≤ start := by
    intro start
    by_cases hle : batchSectors l.sectorSize ≤ last - start
    · rw [Nat.min_eq_left hle, Nat.add_sub_cancel_left]
      exact Or.inl hblock
    · omega
  fun_induction batches (.ram d) l start last bad with
  | case1 start bad hlt count data hok ih =>
    have hread := (read_eq_ok_iff hsize (by omega : start + count ≤ d.sectorCount)).1 ⟨data, hok⟩
    rw [blocks_append (.ram d) (by omega : start ≤ start + count) (by omega)
        ((hwhole start).imp_right (Or.resolve_right · (by omega))),
      blocks_of_readable hsize (by omega) hread, pure_bind]
    exact ih
  | case2 start bad hlt count fault hfault =>
    exact absurd hfault (read_ne_fault hsize (by omega) fault)
  | case3 start bad hlt count reason hrefused ih =>
    rw [blocks_append (.ram d) (by omega : start ≤ start + count) (by omega)
        ((hwhole start).imp_right (Or.resolve_right · (by omega)))]
    exact congrArg _ (funext ih)
  | case4 start bad hge =>
    rw [blocks, dif_neg hge]

/-- A scan of the disk reads block by block what it could read in batches. -/
theorem sectors_eq_blocks (h : l.Sound) (hsize : d.sectorSize.toNat = l.sectorSize)
    (hdisk : l.dataEnd ≤ d.sectorCount) :
    sectors (.ram d) l = blocks (.ram d) l 0 l.dataEnd ∅ := by
  unfold sectors
  rw [h.wordDataEnd_eq]
  exact batches_eq_blocks (blockSectors_dvd_batchSectors h.sectorSize) hsize hdisk ∅

/-- A block without a bad sector is passed over. -/
theorem blocks_of_not_isBad (hsize : d.sectorSize.toNat = l.sectorSize)
    (hdisk : l.dataEnd ≤ d.sectorCount) (h : ¬IsBad d l k) (bad : SectorSet) :
    blocks (.ram d) l (blockStart l k) l.dataEnd bad =
      blocks (.ram d) l (blockStart l (k + 1)) l.dataEnd bad := by
  by_cases hend : l.dataEnd ≤ blockStart l k
  · rw [blocks_of_ge hend, blocks_of_ge (hend.trans (blockStart_le_succ l k))]
  · have hread : ∀ s ∈ d.unreadable, blockStart l k ≤ s →
        min (blockStart l (k + 1)) l.dataEnd ≤ s := fun s hs hle =>
      Nat.not_lt.1 fun hlt => h ⟨s, Finset.mem_Ico.2 ⟨hle, hlt⟩, hs⟩
    rw [blocks_succ _ (by omega), blocks_of_readable hsize (by omega) hread, pure_bind]

/-- A block with a bad sector ends the scan if it starts before the data, and is found otherwise. -/
theorem blocks_of_isBad (hsize : d.sectorSize.toNat = l.sectorSize)
    (hdisk : l.dataEnd ≤ d.sectorCount) (h : IsBad d l k) (bad : SectorSet) :
    ∃ grown : SectorSet, (∀ s, s ∈ grown ↔ s ∈ bad ∨ s ∈ block l k) ∧
      (blocks (.ram d) l (blockStart l k) l.dataEnd bad).outcome =
        if blockStart l k < l.dataStart then refuse (.beforeData (blockStart l k))
        else (blocks (.ram d) l (blockStart l (k + 1)) l.dataEnd grown).outcome := by
  obtain ⟨s, hs, hunreadable⟩ := h
  obtain ⟨hle, hlt⟩ := Finset.mem_Ico.1 hs
  have hnext : blockStart l (k + 1) = blockStart l k + blockSectors l.sectorSize :=
    Nat.succ_mul _ _
  have hcount : blockStart l k + min (blockSectors l.sectorSize) (l.dataEnd - blockStart l k) =
      min (blockStart l (k + 1)) l.dataEnd := by omega
  refine ⟨bad.addRange (blockStart l k)
    (min (blockSectors l.sectorSize) (l.dataEnd - blockStart l k)), fun r => ?_, ?_⟩
  · rw [SectorSet.mem_addRange, hcount, block, Finset.mem_Ico]
  · rw [← blocks_min _ (blockStart l (k + 1)), ← hcount, blocks, dif_pos (by omega)]
    dsimp only
    have hfit : blockStart l k + min (blockSectors l.sectorSize) (l.dataEnd - blockStart l k) ≤
      d.sectorCount := by omega
    have hbad := mt (read_eq_ok_iff hsize hfit).1 fun hread => by
      have := hread s hunreadable hle
      omega
    cases hread : (Device.ram d).read (blockStart l k)
        (min (blockSectors l.sectorSize) (l.dataEnd - blockStart l k) * l.sectorSize) with
    | ok data => exact absurd ⟨data, hread⟩ hbad
    | error stop =>
      cases stop with
      | fault cause => exact absurd hread (read_ne_fault hsize hfit cause)
      | refused cause =>
        dsimp only
        by_cases hbefore : blockStart l k < l.dataStart
        · simp [if_pos hbefore]
        · simp [if_neg hbefore]

/-- A scan is refused at the lowest bad block if that starts before the data. The blocks before it
can be read, and the induction is on their number. -/
theorem blocks_refused (hsize : d.sectorSize.toNat = l.sectorSize)
    (hdisk : l.dataEnd ≤ d.sectorCount) (n : Nat) (hbad : IsBad d l (k + n))
    (hleast : ∀ j, k ≤ j → IsBad d l j → k + n ≤ j) (hbefore : blockStart l (k + n) < l.dataStart)
    (bad : SectorSet) :
    (blocks (.ram d) l (blockStart l k) l.dataEnd bad).outcome =
      refuse (.beforeData (blockStart l (k + n))) := by
  induction n generalizing k with
  | zero =>
    obtain ⟨_, -, hstep⟩ := blocks_of_isBad hsize hdisk hbad bad
    exact hstep.trans (if_pos hbefore)
  | succ n ih =>
    have hgood : ¬IsBad d l k := fun h => by
      have := hleast k (Nat.le_refl _) h
      omega
    have hshift : k + 1 + n = k + (n + 1) := by omega
    rw [blocks_of_not_isBad hsize hdisk hgood, ih (hshift ▸ hbad)
      (fun j hj hjbad => hshift ▸ hleast j (by omega) hjbad) (hshift ▸ hbefore), hshift]

/-- A scan finds every bad block if none of them starts before the data. The induction is on the
blocks that are left, for any blocks that were found before. -/
theorem blocks_found (hsize : d.sectorSize.toNat = l.sectorSize)
    (hdisk : l.dataEnd ≤ d.sectorCount) (n : Nat) (hend : l.dataEnd ≤ blockStart l (k + n))
    (hdata : ∀ j, k ≤ j → IsBad d l j → l.dataStart ≤ blockStart l j) (bad : SectorSet) :
    ∃ found, (blocks (.ram d) l (blockStart l k) l.dataEnd bad).outcome = .ok found ∧
      ∀ s, s ∈ found ↔ s ∈ bad ∨ ∃ j, k ≤ j ∧ IsBad d l j ∧ s ∈ block l j := by
  have hsplit : ∀ k s, (∃ j, k ≤ j ∧ IsBad d l j ∧ s ∈ block l j) ↔
      IsBad d l k ∧ s ∈ block l k ∨ ∃ j, k + 1 ≤ j ∧ IsBad d l j ∧ s ∈ block l j := by
    intro k s
    constructor
    · rintro ⟨j, hj, h⟩
      rcases Nat.eq_or_lt_of_le hj with rfl | hlt
      · exact Or.inl h
      · exact Or.inr ⟨j, hlt, h⟩
    · rintro (h | ⟨j, hj, h⟩)
      · exact ⟨k, Nat.le_refl _, h⟩
      · exact ⟨j, Nat.le_of_succ_le hj, h⟩
  induction n generalizing k bad with
  | zero =>
    rw [Nat.add_zero] at hend
    rw [blocks_of_ge hend]
    refine ⟨bad, rfl, fun s => (or_iff_left ?_).symm⟩
    rintro ⟨j, hj, -, hs⟩
    have hmono : blockStart l k ≤ blockStart l j := Nat.mul_le_mul_right _ hj
    have := Finset.mem_Ico.1 hs
    omega
  | succ n ih =>
    have hend' : l.dataEnd ≤ blockStart l (k + 1 + n) := by
      rwa [show k + 1 + n = k + (n + 1) by omega]
    have hdata' := fun j (hj : k + 1 ≤ j) => hdata j (Nat.le_of_succ_le hj)
    by_cases hbad : IsBad d l k
    · obtain ⟨grown, hgrown, hstep⟩ := blocks_of_isBad hsize hdisk hbad bad
      rw [if_neg (Nat.not_lt.2 (hdata k (Nat.le_refl _) hbad))] at hstep
      obtain ⟨found, hfound, hmem⟩ := ih hend' hdata' grown
      refine ⟨found, hstep.trans hfound, fun s => ?_⟩
      rw [hmem, hgrown, hsplit k, and_iff_right hbad, or_assoc]
    · rw [blocks_of_not_isBad hsize hdisk hbad]
      obtain ⟨found, hfound, hmem⟩ := ih hend' hdata' bad
      refine ⟨found, hfound, fun s => ?_⟩
      rw [hmem, hsplit k, or_iff_right (not_and_of_not_left _ hbad)]

/-- The first bad block is the least one. -/
theorem exists_isLeast_isBad (h : IsBad d l k) : ∃ j ≤ k, IsLeast {j | IsBad d l j} j := by
  classical
  have hsome : ∃ j, IsBad d l j := ⟨k, h⟩
  exact ⟨Nat.find hsome, Nat.find_min' hsome h, Nat.find_spec hsome,
    fun i hi => Nat.find_min' hsome hi⟩

/-- A scan of the disk is refused at the first bad block if that starts before the data. -/
theorem sectors_refused (h : l.Sound) (hsize : d.sectorSize.toNat = l.sectorSize)
    (hdisk : l.dataEnd ≤ d.sectorCount) (hk : IsLeast {j | IsBad d l j} k)
    (hbefore : blockStart l k < l.dataStart) :
    (sectors (.ram d) l).outcome = refuse (.beforeData (blockStart l k)) := by
  have hzero : blockStart l 0 = 0 := Nat.zero_mul _
  have hrefused := blocks_refused (k := 0) hsize hdisk k (by simpa using hk.1)
    (fun j _ hj => by simpa using hk.2 hj) (by simpa using hbefore) ∅
  rw [sectors_eq_blocks h hsize hdisk, ← hzero, hrefused, Nat.zero_add]

/-- A scan of the disk finds the sectors of all bad blocks if none starts before the data. -/
theorem sectors_found (h : l.Sound) (hsize : d.sectorSize.toNat = l.sectorSize)
    (hdisk : l.dataEnd ≤ d.sectorCount) (hdata : ∀ k, IsBad d l k → l.dataStart ≤ blockStart l k) :
    ∃ found, (sectors (.ram d) l).outcome = .ok found ∧
      ∀ s, s ∈ found ↔ ∃ k, IsBad d l k ∧ s ∈ block l k := by
  have hzero : blockStart l 0 = 0 := Nat.zero_mul _
  have hend : l.dataEnd ≤ blockStart l (0 + l.dataEnd) := by
    rw [Nat.zero_add]
    exact Nat.le_mul_of_pos_right _ (blockSectors_pos _)
  obtain ⟨found, hfound, hmem⟩ := blocks_found hsize hdisk l.dataEnd hend (fun j _ => hdata j) ∅
  refine ⟨found, ?_, fun s => by simpa using hmem s⟩
  rw [sectors_eq_blocks h hsize hdisk, ← hzero, hfound]

end Ram

/-- **A scan is a plain scan of blocks.** On a disk with the sectors of a computed layout it makes no
difference to a scan that it reads in batches. It is refused at the lowest block with a bad sector if
that block starts before the data, and otherwise it finds the sectors of all such blocks, which lie in
the data area. -/
theorem sectors_eq_badBlocks {g : Geometry} {o : Layout.Options} {l : Layout} {d : RamDisk}
    (hl : Layout.compute g o = .ok l) (hsize : d.sectorSize.toNat = l.sectorSize)
    (hdisk : l.dataEnd ≤ d.sectorCount) :
    sectors (.ram d) l = blocks (.ram d) l 0 l.dataEnd ∅ ∧
    (∀ k, IsLeast {j | IsBad d l j} k → blockStart l k < l.dataStart →
      (sectors (.ram d) l).outcome = refuse (.beforeData (blockStart l k))) ∧
    ((∀ k, IsLeast {j | IsBad d l j} k → l.dataStart ≤ blockStart l k) →
      ∃ found, (sectors (.ram d) l).outcome = .ok found ∧
        (∀ s, s ∈ found ↔ ∃ k, IsBad d l k ∧ s ∈ block l k) ∧
        ∀ s ∈ found, l.dataStart ≤ s ∧ s < l.dataEnd) := by
  have hsound := Layout.sound_of_compute hl
  refine ⟨sectors_eq_blocks hsound hsize hdisk,
    fun k hk hbefore => sectors_refused hsound hsize hdisk hk hbefore, fun hleast => ?_⟩
  have hdata : ∀ k, IsBad d l k → l.dataStart ≤ blockStart l k := by
    intro k hk
    obtain ⟨j, hj, hfirst⟩ := exists_isLeast_isBad hk
    exact (hleast j hfirst).trans (Nat.mul_le_mul_right _ hj)
  obtain ⟨found, hfound, hmem⟩ := sectors_found hsound hsize hdisk hdata
  refine ⟨found, hfound, hmem, fun s hs => ?_⟩
  obtain ⟨k, hbad, hs⟩ := (hmem s).1 hs
  have hstart := hdata k hbad
  have hblock := Finset.mem_Ico.1 hs
  omega

/-- A disk of 1440 KiB with sectors that cannot be read. -/
def damagedFloppy (bad : List Nat) : RamDisk := .worn 2880 (by decide) 0 bad []

/-- The sectors of the disk that cannot be read are those that were given. -/
theorem mem_unreadable_damagedFloppy {bad : List Nat} :
    s ∈ (damagedFloppy bad).unreadable ↔ s ∈ bad := SectorSet.mem_ofList

theorem sectorCount_damagedFloppy (bad : List Nat) : (damagedFloppy bad).sectorCount = 2880 :=
  RamDisk.sectorCount_worn 2880 (by decide) 0 bad []

/-- On a floppy disk the first sector of the data shares its block with the root directory, and the
last sector has a block with the one before it. -/
theorem sectors_eq_badBlocks_floppy :
    ∃ l, Layout.compute ⟨512, 2880, ⟨2, 18⟩, 0⟩ {} = .ok l ∧ l.dataStart = 51 ∧
      (sectors (.ram (damagedFloppy [51])) l).outcome = refuse (.beforeData 50) ∧
      ∃ found, (sectors (.ram (damagedFloppy [2879])) l).outcome = .ok found ∧
        ∀ s, s ∈ found ↔ s = 2878 ∨ s = 2879 := by
  have hl := Layout.compute_floppy
  have hbad : ∀ bad < 2880, ∀ k,
      IsBad (damagedFloppy [bad]) ⟨.fat12, 512, 1, 2829, 9, 2, 1, 512, 32, 51, 2880, false⟩ k ↔
        bad / 2 = k := by
    intro bad hlt k
    rw [isBad_iff]
    simp only [mem_unreadable_damagedFloppy, List.mem_singleton, exists_eq_left]
    exact and_iff_left hlt
  have hdisk := fun bad => (sectorCount_damagedFloppy bad).ge
  refine ⟨_, hl, rfl, ?_, ?_⟩
  · refine (sectors_eq_badBlocks hl rfl (hdisk [51])).2.1 25 ⟨(hbad 51 (by omega) 25).2 rfl, ?_⟩
      (by decide)
    intro k hk
    exact Nat.le_of_eq ((hbad 51 (by omega) k).1 hk)
  · obtain ⟨found, hfound, hmem, -⟩ :=
      (sectors_eq_badBlocks hl rfl (hdisk [2879])).2.2 fun k hk => by
        rw [← (hbad 2879 (by omega) k).1 hk.1]
        decide
    refine ⟨found, hfound, fun s => ?_⟩
    rw [hmem]
    simp only [hbad 2879 (by omega), exists_eq_left', mem_block]
    show s / 2 = 2879 / 2 ∧ s < 2880 ↔ _
    omega

end FatVolume.Scan
