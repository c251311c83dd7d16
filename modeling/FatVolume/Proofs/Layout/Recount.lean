import FatVolume.Proofs.Layout.Sound

/-!
# Clusters counted from a layout

A driver counts the clusters again from the areas of a layout. Its count is that of the layout
unless a root directory that could not be aligned leaves room for one cluster more
(`recount_of_compute`): clusters are counted as if the root directory were aligned.
-/

namespace FatVolume

/-- Taking away a number, or the number rounded up, leaves as many whole parts, unless what the
number has beyond its own parts fits within what is left over. -/
theorem sub_div_eq_sub_ceilDiv_div {space taken size : Nat} (hsize : 0 < size)
    (h : ceilDiv taken size * size ≤ space) :
    (space - taken) / size = (space - ceilDiv taken size * size) / size +
      if 0 < taken % size ∧ taken % size ≤ space % size then 1 else 0 := by
  by_cases hm : taken % size = 0
  · rw [ceilDiv_mul_of_dvd hsize (Nat.dvd_of_mod_eq_zero hm), if_neg (by omega), Nat.add_zero]
  · rw [ceilDiv_eq_div_add_one hsize hm] at h ⊢
    have htaken := Nat.div_add_mod taken size
    have hspace := Nat.div_add_mod space size
    have hmod := Nat.mod_lt taken hsize
    have hrest := Nat.mod_lt space hsize
    generalize taken / size = a at *
    generalize taken % size = m at *
    generalize space / size = b at *
    generalize space % size = r at *
    have hab : a + 1 ≤ b := by
      by_contra hlt
      have hmul := Nat.mul_le_mul_left size (by omega : b ≤ a)
      rw [Nat.add_mul, Nat.mul_comm a] at h
      omega
    obtain ⟨d, rfl⟩ := Nat.exists_eq_add_of_le hab
    have hleft : space - (a + 1) * size = r + size * d := by
      rw [← hspace, Nat.mul_add, Nat.mul_comm (a + 1)]
      omega
    rw [hleft, Nat.add_mul_div_left r d hsize, Nat.div_eq_of_lt hrest]
    split
    · have hright : space - taken = (r - m) + size * (d + 1) := by
        rw [← hspace, ← htaken, Nat.mul_add, Nat.mul_add, Nat.mul_add]
        omega
      rw [hright, Nat.add_mul_div_left _ _ hsize, Nat.div_eq_of_lt (by omega)]
      omega
    · have hright : space - taken = (size + r - m) + size * d := by
        rw [← hspace, ← htaken, Nat.mul_add, Nat.mul_add]
        omega
      rw [hright, Nat.add_mul_div_left _ _ hsize, Nat.div_eq_of_lt (by omega)]
      omega

namespace Layout

/-- The number of clusters that a driver works out from the areas of a layout. -/
def recount (l : Layout) : Nat :=
  (l.totalSectors - (l.reservedSectors + l.tableCount * l.tableSectors +
    ceilDiv (l.rootEntries * directoryEntryBytes) l.sectorSize)) / l.clusterSectors

/-- The volume has room for one cluster more than are counted: the areas are aligned but the root
directory is not, and what it has beyond whole clusters fits the sectors that are left over. -/
def HasSpareCluster (l : Layout) : Prop :=
  l.aligned = true ∧ 0 < l.rootSectors % l.clusterSectors ∧
    l.rootSectors % l.clusterSectors ≤ l.totalSectors % l.clusterSectors

instance (l : Layout) : Decidable l.HasSpareCluster := inferInstanceAs (Decidable (_ ∧ _))

/-- A sector holds a whole number of directory entries. -/
theorem IsSectorSize.directoryEntryBytes_dvd {bytes : Nat} (h : IsSectorSize bytes) :
    directoryEntryBytes ∣ bytes :=
  IsPowerOfTwo.dvd_of_le (isPowerOfTwo_iff.2 ⟨5, rfl⟩) h.1
    ((by decide : directoryEntryBytes ≤ 512).trans h.2.1)

namespace Parameters

variable {p : Parameters} {choice : Choice}

/-- The entries of the root directory need all its sectors. -/
theorem WellFormed.ceilDiv_rootEntries (h : p.WellFormed) (choice : Choice) :
    ceilDiv ((p.rootOf choice).2 * directoryEntryBytes) p.sectorSize = (p.rootOf choice).1 := by
  have hpos := h.sectorSize.1.pos
  unfold rootOf
  dsimp only
  split
  · exact Nat.le_zero.1 (ceilDiv_le_self 0 hpos)
  · split
    · dsimp only
      have hdvd : directoryEntryBytes ∣ choice.candidate.area p.rootSectors * p.sectorSize :=
        Dvd.dvd.mul_left h.sectorSize.directoryEntryBytes_dvd _
      rw [Nat.div_mul_cancel hdvd]
      have hexact := ceilDiv_mul_of_dvd hpos
        (Nat.dvd_mul_left p.sectorSize (choice.candidate.area p.rootSectors))
      exact Nat.eq_of_mul_eq_mul_right hpos hexact
    · exact h.rootSectors_eq.symm

/-- The sectors that were set apart for the root directory. -/
def rootRoom (p : Parameters) (choice : Choice) : Nat :=
  if choice.width = .fat32 then 0 else choice.candidate.area p.rootSectors

/-- Tables and clusters have what reserved area and root directory leave. -/
theorem Found.space_eq (hf : p.Found choice) :
    p.space choice.candidate.clusterSectors choice.width =
      p.totalSectors - choice.candidate.area p.reserved - p.rootRoom choice := by
  have hcandidate := hf.candidate_eq
  unfold space rootRoom
  dsimp only
  rw [← hcandidate]
  cases choice.width with
  | fat32 => rw [if_pos rfl, Nat.sub_zero]
  | fat12 => rw [if_neg (by decide)]
  | fat16 => rw [if_neg (by decide)]

/-- The clusters of a choice are those of the sectors that the areas leave, and the areas leave
some. -/
theorem Found.clusters_eq (hf : p.Found choice) :
    choice.candidate.area p.reserved + p.tableCount * choice.fit.tableSectors +
      p.rootRoom choice ≤ p.totalSectors ∧
    choice.fit.clusters = (p.totalSectors - (choice.candidate.area p.reserved +
      p.tableCount * choice.fit.tableSectors) - p.rootRoom choice) /
        choice.candidate.clusterSectors := by
  obtain ⟨⟨htables, hmin, -⟩, hclusters, hlength⟩ := hf.fits
  have hpos := choice.width.minClusters_pos
  unfold Candidate.count at hclusters hmin
  rw [← hlength, hf.tableCount_eq, hf.space_eq] at hclusters hmin htables
  have hleft := Nat.pos_of_div_pos (hpos.trans_le hmin)
  refine ⟨by omega, ?_⟩
  rw [hclusters]
  congr 1
  omega

/-- In aligned layouts the areas before the root directory are whole clusters. -/
theorem Found.dvd_areas (hf : p.Found choice) (ha : p.align = true) :
    choice.candidate.clusterSectors ∣
      choice.candidate.area p.reserved + p.tableCount * choice.fit.tableSectors := by
  obtain ⟨-, -, hlength⟩ := hf.fits
  have hdvd := Candidate.dvd_area (hf.align_eq.trans ha)
  rw [hlength]
  exact Nat.dvd_add (hdvd _) (Dvd.dvd.mul_left (hdvd _) _)

/-- The root directory takes the room that was set apart for it, which is of whole clusters if the
layout is aligned; or the layout is aligned and the root directory takes its own sectors of a room
that is rounded up. -/
theorem Found.rootOf_fst (hf : p.Found choice) :
    (p.rootOf choice).1 = p.rootRoom choice ∧
        (p.align = true → (p.rootOf choice).1 % choice.candidate.clusterSectors = 0) ∨
      p.align = true ∧ p.rootRoom choice =
        ceilDiv (p.rootOf choice).1 choice.candidate.clusterSectors *
          choice.candidate.clusterSectors := by
  have halign := hf.align_eq
  unfold rootOf rootRoom
  dsimp only
  by_cases hw : choice.width = .fat32
  · rw [if_pos hw, if_pos hw]
    exact Or.inl ⟨rfl, fun _ => Nat.zero_mod _⟩
  · rw [if_neg hw, if_neg hw]
    unfold Candidate.area
    rw [halign]
    by_cases ha : p.align = true
    · simp only [if_pos ha]
      split
      · exact Or.inl ⟨rfl, fun _ => Nat.mul_mod_left _ _⟩
      · exact Or.inr ⟨ha, rfl⟩
    · simp only [if_neg ha]
      rw [if_neg fun hn => ha hn.1]
      exact Or.inl ⟨rfl, fun hn => absurd hn ha⟩

/-- A driver counts the clusters of a choice, and the spare one if there is. A driver takes the root
directory as it is, where the layout took it rounded up. -/
theorem Found.recount_eq (hf : p.Found choice) (h : p.WellFormed) :
    (p.layoutFor choice).recount = (p.layoutFor choice).clusterCount +
      if (p.layoutFor choice).HasSpareCluster then 1 else 0 := by
  have hpos := hf.clusterSectors.1.pos
  obtain ⟨hroom, hclusters⟩ := hf.clusters_eq
  have hrecount : (p.layoutFor choice).recount = (p.totalSectors -
      (choice.candidate.area p.reserved + p.tableCount * choice.fit.tableSectors) -
        (p.rootOf choice).1) / choice.candidate.clusterSectors := by
    unfold recount layoutFor
    dsimp only
    rw [h.ceilDiv_rootEntries choice, Nat.sub_sub]
  have hspare : (p.layoutFor choice).HasSpareCluster ↔ p.align = true ∧
      0 < (p.rootOf choice).1 % choice.candidate.clusterSectors ∧
        (p.rootOf choice).1 % choice.candidate.clusterSectors ≤
          p.totalSectors % choice.candidate.clusterSectors := Iff.rfl
  show _ = choice.fit.clusters + _
  simp only [hspare]
  rw [hrecount, hclusters]
  rcases hf.rootOf_fst with ⟨hroot, hmod⟩ | ⟨ha, hroot⟩
  · rw [hroot] at hmod ⊢
    rw [if_neg fun hn => (hn.2.1.ne' (hmod hn.1)), Nat.add_zero]
  · obtain ⟨k, hk⟩ := hf.dvd_areas ha
    have htotal : p.totalSectors % choice.candidate.clusterSectors = (p.totalSectors -
        (choice.candidate.area p.reserved + p.tableCount * choice.fit.tableSectors)) %
          choice.candidate.clusterSectors := by
      rw [hk, Nat.sub_mul_mod (by omega)]
    rw [hroot] at hroom ⊢
    rw [htotal, sub_div_eq_sub_ceilDiv_div hpos (by omega)]
    simp only [ha, true_and]

/-- On FAT12 and FAT16 the root directory has the entries that are asked for, before alignment. -/
theorem Found.rootEntries_settled {g : Geometry} {o : Options}
    (hf : (settled g o).Found choice) (hw : choice.width ≠ .fat32) :
    (settled g o).rootEntries = o.rootEntries.toNat :=
  if_neg fun hp => hw (hf.width_eq_fat32_iff.2 hp)

end Parameters

/-- A driver counts the clusters of a computed layout, and the spare one if there is. -/
theorem recount_of_compute {g : Geometry} {o : Options} {l : Layout} (h : compute g o = .ok l) :
    l.recount = l.clusterCount + if l.HasSpareCluster then 1 else 0 := by
  obtain ⟨choice, hwell, hf, -, -, rfl⟩ := exists_choice_of_compute h
  exact hf.recount_eq hwell

/-- The width that goes with the clusters that a driver counts is that of the layout, unless the
spare cluster is one more than the width allows. -/
theorem Sound.ofClusterCount_iff {l : Layout} (h : l.Sound) :
    Width.ofClusterCount (l.clusterCount + if l.HasSpareCluster then 1 else 0) = l.width ↔
      ¬(l.HasSpareCluster ∧ l.clusterCount = l.width.maxClusters) := by
  have hmin := h.minClusters_le
  have hmax := h.le_maxClusters
  by_cases hs : l.HasSpareCluster
  · have hw : l.width ≠ .fat32 := by
      intro hw
      have hpos := hs.2.1
      rw [(h.root_eq_zero hw).2, Nat.zero_mod] at hpos
      exact Nat.lt_irrefl 0 hpos
    rw [if_pos hs]
    unfold Width.ofClusterCount
    cases hwidth : l.width with
    | fat12 =>
      rw [hwidth] at hmax
      simp only [Width.maxClusters] at hmax ⊢
      by_cases hlt : l.clusterCount + 1 < 4085
      · rw [if_pos hlt]
        exact iff_of_true rfl fun hn => by omega
      · rw [if_neg hlt]
        exact iff_of_false (by split <;> decide) (not_not.2 ⟨hs, by omega⟩)
    | fat16 =>
      rw [hwidth] at hmin hmax
      simp only [Width.minClusters, Width.maxClusters] at hmin hmax ⊢
      rw [if_neg (by omega)]
      by_cases hlt : l.clusterCount + 1 < 65525
      · rw [if_pos hlt]
        exact iff_of_true rfl fun hn => by omega
      · rw [if_neg hlt]
        exact iff_of_false (by decide) (not_not.2 ⟨hs, by omega⟩)
    | fat32 => exact absurd hwidth hw
  · rw [if_neg hs, Nat.add_zero]
    refine iff_of_true ?_ fun hn => hs hn.1
    unfold Width.ofClusterCount
    cases hwidth : l.width <;> rw [hwidth] at hmin hmax <;>
      simp only [Width.minClusters, Width.maxClusters] at hmin hmax
    · rw [if_pos (by omega)]
    · rw [if_neg (by omega), if_pos (by omega)]
    · rw [if_neg (by omega), if_neg (by omega)]

/-- The entries of the root directory fit their field of 16 bits if those asked for do. -/
theorem rootEntries_of_compute {g : Geometry} {o : Options} {l : Layout}
    (h : compute g o = .ok l) (hroot : o.rootEntries.toNat ≤ maxField16) :
    l.rootEntries ≤ maxField16 := by
  obtain ⟨choice, -, -, -, -, rfl⟩ := exists_choice_of_compute h
  have hsettled : (Parameters.settled g o).rootEntries ≤ maxField16 := by
    show (if _ then 0 else o.rootEntries.toNat) ≤ maxField16
    split
    · exact Nat.zero_le _
    · exact hroot
  show ((Parameters.settled g o).rootOf choice).2 ≤ maxField16
  unfold Parameters.rootOf
  dsimp only
  split
  · exact Nat.zero_le _
  · split
    · exact (‹_ ∧ _› : _ ∧ _ ≤ maxField16).2
    · exact hsettled

/-- On FAT12 and FAT16 the root directory has a sector if it is asked for an entry. -/
theorem rootSectors_pos_of_compute {g : Geometry} {o : Options} {l : Layout}
    (h : compute g o = .ok l) (hw : l.width ≠ .fat32) (hroot : 0 < o.rootEntries.toNat) :
    0 < l.rootSectors := by
  obtain ⟨choice, hwell, hf, -, -, rfl⟩ := exists_choice_of_compute h
  have hentries := hf.rootEntries_settled hw
  have hsectors : 0 < (Parameters.settled g o).rootSectors := by
    rw [hwell.rootSectors_eq, hentries]
    exact (gc_mul_ceilDiv hwell.sectorSize.1.pos).lt_iff_lt.2 (Nat.mul_pos hroot (by decide))
  have harea := (hf.candidate hwell).sized.le_area (Parameters.settled g o).rootSectors
  show 0 < ((Parameters.settled g o).rootOf choice).1
  unfold Parameters.rootOf
  dsimp only
  rw [if_neg (show choice.width ≠ .fat32 from hw)]
  split
  · exact hsectors.trans_le harea
  · exact hsectors

end Layout

end FatVolume
