import FatVolume.Proofs.Layout.Trial

/-!
# Tables sized in two passes

A trial sizes the table for an estimate of the clusters and then counts the clusters in what the tables
leave. The estimate is never too low (`Candidate.Sized.count_le_firstCount`), so that the table has an
entry for every cluster, and it is too high by so few that the table is longer than it has to be by one
unit at most (`Candidate.Sized.tableLength_le_add_unit`). `Candidate.fit_sizing` says this of the trial
that runs, together with the only way in which it can break down: areas that are to be aligned to a
number of sectors that is no power of two.
-/

namespace FatVolume

namespace Width

/-- Twice the bytes of a table are no less than those of its entries. -/
theorem mul_entryHalves_le (w : Width) (entries : Nat) :
    entries * w.entryHalves ≤ 2 * w.tableBytes entries := by
  cases w <;> simp only [tableBytes, entryHalves] <;> omega

/-- A table of more entries takes no fewer bytes. -/
theorem tableBytes_mono (w : Width) {m n : Nat} (h : m ≤ n) : w.tableBytes m ≤ w.tableBytes n := by
  cases w <;> simp only [tableBytes] <;> omega

/-- Each entry more takes at most four bytes more. -/
theorem tableBytes_add_le (w : Width) (entries more : Nat) :
    w.tableBytes (entries + more) ≤ w.tableBytes entries + 4 * more := by
  cases w <;> simp only [tableBytes] <;> omega

end Width

namespace Layout.Candidate

/-- Whole units of sectors that hold a table for so many clusters. -/
def HoldsTable (c : Candidate) (w : Width) (clusters sectors : Nat) : Prop :=
  c.unit ∣ sectors ∧ w.tableBytes (clusters + reservedEntries) ≤ sectors * c.sectorSize

/-- Sectors of the shortest table for so many clusters. -/
def leastTable (c : Candidate) (w : Width) (clusters : Nat) : Nat :=
  c.area (ceilDiv (w.tableBytes (clusters + reservedEntries)) c.sectorSize)

variable {c : Candidate} {w : Width} {space : Nat}

/-- Where areas cannot be aligned no area is found. -/
theorem alignSectors_of_not_alignable (hn : ¬c.Alignable) (sectors : Nat) :
    c.alignSectors sectors = .error .brokenInvariant := by
  obtain ⟨ha, hpower⟩ := Classical.not_imp.1 hn
  unfold alignSectors alignUp invariant
  rw [if_pos ha, if_neg hpower, error_bind]

namespace Sized

/-- The shortest table for so many clusters is the least number of whole units that holds one. -/
theorem isLeast_leastTable (h : c.Sized) (w : Width) (clusters : Nat) :
    IsLeast {n | c.HoldsTable w clusters n} (c.leastTable w clusters) :=
  h.isLeast_area fun n => by
    rw [ceilDiv_eq, ceilDiv_le_iff_le_mul h.sectorSize_pos, Nat.mul_comm]

/-- For one sector more an area grows by one unit at most. -/
theorem area_le_add_unit (h : c.Sized) {a b : Nat} (hab : a ≤ b + 1) :
    c.area a ≤ c.area b + c.unit := by
  have hpos := h.unit_bounds.1
  have hquotient : ceilDiv a c.unit ≤ ceilDiv b c.unit + 1 := by
    rw [← ceilDiv_add_right b hpos]
    exact (gc_mul_ceilDiv hpos).monotone_l (by omega)
  have hmul := Nat.mul_le_mul_right c.unit hquotient
  rw [Nat.add_mul, Nat.one_mul] at hmul
  rw [area_eq, area_eq]
  exact hmul

/-- The table holds the entries of the estimated clusters and the reserved ones. -/
theorem tableBytes_firstCount_le (h : c.Sized) (w : Width) (space : Nat) :
    w.tableBytes (c.firstCount w space + reservedEntries) ≤
      c.tableLength w space * c.sectorSize :=
  (h.isLeast_leastTable w (c.firstCount w space)).1.2

/-- The clusters that the tables leave are no more than were estimated: with one cluster more the
clusters and the entries of the estimate would not fit the space. -/
theorem count_le_firstCount (h : c.Sized) (w : Width) (space : Nat) :
    c.count w space ≤ c.firstCount w space := by
  by_cases ht : c.tableCount * c.tableLength w space ≤ space
  · by_contra hn
    have hestimate := h.lt_firstCount_mul w space
    have hentries := Nat.mul_le_mul_left c.tableCount
      (w.mul_entryHalves_le (c.firstCount w space + reservedEntries))
    have hbytes := Nat.mul_le_mul_left c.tableCount (h.tableBytes_firstCount_le w space)
    have hclusters : (c.firstCount w space + 1) * c.clusterSectors ≤
        space - c.tableCount * c.tableLength w space :=
      calc (c.firstCount w space + 1) * c.clusterSectors
          ≤ c.count w space * c.clusterSectors := Nat.mul_le_mul_right _ (by omega)
        _ ≤ space - c.tableCount * c.tableLength w space := Nat.div_mul_le_self _ _
    have hsectors := Nat.mul_le_mul_right c.sectorSize
      (show (c.firstCount w space + 1) * c.clusterSectors +
        c.tableCount * c.tableLength w space ≤ space by omega)
    have hreserved := Nat.zero_le (c.tableCount * w.entryHalves)
    simp only [reservedEntries] at hentries hbytes
    linarith
  · have hzero : c.count w space = 0 := by
      unfold count
      rw [Nat.sub_eq_zero_of_le (by omega), Nat.zero_div]
    omega

/-- The table addresses every cluster that the tables leave, after the reserved entries. -/
theorem count_add_le (h : c.Sized) (w : Width) (space : Nat) :
    c.count w space + reservedEntries ≤ c.tableLength w space * c.sectorSize * 8 / w.bits :=
  (Nat.add_le_add_right (h.count_le_firstCount w space) _).trans
    (w.tableBytes_le_iff.1 (h.tableBytes_firstCount_le w space))

/-- A width fits just if the tables leave a number of clusters in its own range: the length of the
table excludes nothing. -/
theorem fits_iff (h : c.Sized) (w : Width) (space : Nat) :
    c.Fits w space ↔ c.tableCount * c.tableLength w space ≤ space ∧
      w.minClusters ≤ c.count w space ∧ c.count w space ≤ w.maxClusters := by
  have hcount := h.count_add_le w space
  unfold Fits most
  rw [le_min_iff]
  omega

/-- The table is no shorter than its clusters need. -/
theorem leastTable_le (h : c.Sized) (w : Width) (space : Nat) :
    c.leastTable w (c.count w space) ≤ c.tableLength w space :=
  h.area_mono ((gc_mul_ceilDiv h.sectorSize_pos).monotone_l
    (w.tableBytes_mono (Nat.add_le_add_right (h.count_le_firstCount w space) _)))

/-- The table is at most one unit longer than its clusters need: the entries that were estimated in
excess take less than a sector. -/
theorem tableLength_le_add_unit (h : c.Sized)
    (ht : c.tableCount * c.tableLength w space ≤ space) :
    c.tableLength w space ≤ c.leastTable w (c.count w space) + c.unit := by
  have hfirst := h.firstCount_le ht
  have hcopies := h.tableCount.2
  have hsector := h.sectorSize.2.1
  have hbytes : w.tableBytes (c.firstCount w space + reservedEntries) ≤
      w.tableBytes (c.count w space + reservedEntries) + c.sectorSize := by
    have hmono := w.tableBytes_mono (show c.firstCount w space + reservedEntries ≤
      c.count w space + reservedEntries + 9 by omega)
    have hadd := w.tableBytes_add_le (c.count w space + reservedEntries) 9
    omega
  refine h.area_le_add_unit ?_
  rw [← ceilDiv_add_right _ h.sectorSize_pos]
  exact (gc_mul_ceilDiv h.sectorSize_pos).monotone_l hbytes

/-- Where areas cannot be aligned a trial ends with the first area. -/
theorem fit_of_not_alignable (h : c.Sized) (hn : ¬c.Alignable) (w : Width) (hs : space < 2 ^ 32) :
    c.fit w space = .error .brokenInvariant := by
  unfold fit
  rw [h.estimate_eq w hs, ok_bind, h.tableSectors_eq w hs, alignSectors_of_not_alignable hn, error_bind]

end Sized

/-- **The table is sized in two passes, sufficiently and tightly.** For every width, all sector sizes
and numbers of table copies of a volume, clusters of 1 to 128 sectors, aligned or not, and every space
counted in 32 bits:

* a trial breaks down only where areas are to be aligned to a number of sectors that is no power of
  two; no number overflows and no difference falls below zero;
* otherwise the clusters that the tables leave are no more than were estimated, and the table
  addresses all of them after the reserved entries; the width is rejected just if the tables do not
  fit the space, or if the clusters are too few or too many for the width;
* the table of a fit holds the entries of its clusters, and is at most one unit longer than the
  shortest table that does. -/
theorem fit_sizing (c : Candidate) (h : c.Sized) (w : Width) (space : Nat) (hs : space < 2 ^ 32) :
    (∀ cause, c.fit w space = .error cause ↔ cause = .brokenInvariant ∧ ¬c.Alignable) ∧
    (c.Alignable → ∃ estimate length clusters,
      c.estimate w space = .ok estimate ∧ c.tableSectors w estimate = .ok length ∧
      clusters = (space - c.tableCount * length) / c.clusterSectors ∧
      clusters ≤ estimate ∧ clusters + reservedEntries ≤ length * c.sectorSize * 8 / w.bits ∧
      c.fit w space = .ok (if c.tableCount * length ≤ space ∧
          w.minClusters ≤ clusters ∧ clusters ≤ w.maxClusters then some ⟨clusters, length⟩
        else none)) ∧
    ∀ found, c.fit w space = .ok (some found) →
      ∃ least, IsLeast {n | c.HoldsTable w found.clusters n} least ∧
        least ≤ found.tableSectors ∧ found.tableSectors ≤ least + c.unit := by
  by_cases ha : c.Alignable
  · have hfit := h.fit_eq ha w hs
    refine ⟨fun cause => ?_, fun _ => ?_, fun found hfound => ?_⟩
    · rw [hfit]
      exact iff_of_false nofun fun hn => hn.2 ha
    · refine ⟨_, _, _, h.estimate_eq w hs, h.tableSectors_eq_ok ha w hs, rfl,
        h.count_le_firstCount w space, h.count_add_le w space, ?_⟩
      rw [hfit]
      unfold fit?
      simp only [h.fits_iff]
      rfl
    · rw [hfit, Except.ok.injEq, fit?_eq_some_iff] at hfound
      obtain ⟨hfits, rfl⟩ := hfound
      exact ⟨_, h.isLeast_leastTable w _, h.leastTable_le w space, h.tableLength_le_add_unit hfits.1⟩
  · have hfit := h.fit_of_not_alignable ha w hs
    refine ⟨fun cause => ?_, fun hn => absurd hn ha, fun found hfound => ?_⟩
    · rw [hfit, Except.error.injEq, eq_comm]
      exact (and_iff_left ha).symm
    · rw [hfit] at hfound
      cases hfound

/-- The bound of one unit is reached, without alignment and with it. A space of 1021 sectors with
clusters of three sectors is estimated at 340 clusters of FAT12, for which the table takes two sectors;
they leave 339 clusters, whose entries fit one sector exactly. Two tables of FAT16 that are aligned to
clusters of four sectors leave 54270 clusters of 217515 sectors, whose entries fill 212 sectors. To
whole clusters of three sectors nothing can be aligned. -/
theorem fit_sizing_reached :
    Sized ⟨512, 3, 1, false⟩ ∧ Sized ⟨512, 4, 2, true⟩ ∧ Sized ⟨512, 3, 1, true⟩ ∧
    fit ⟨512, 3, 1, false⟩ .fat12 1021 = .ok (some ⟨339, 2⟩) ∧
    IsLeast {n | HoldsTable ⟨512, 3, 1, false⟩ .fat12 339 n} 1 ∧
    fit ⟨512, 4, 2, true⟩ .fat16 217515 = .ok (some ⟨54270, 216⟩) ∧
    IsLeast {n | HoldsTable ⟨512, 4, 2, true⟩ .fat16 54270 n} 212 ∧
    fit ⟨512, 3, 1, true⟩ .fat12 1021 = .error .brokenInvariant := by
  have hplain : Sized ⟨512, 3, 1, false⟩ := ⟨by decide, by decide, by decide⟩
  have haligned : Sized ⟨512, 4, 2, true⟩ := ⟨by decide, by decide, by decide⟩
  have hodd : Sized ⟨512, 3, 1, true⟩ := ⟨by decide, by decide, by decide⟩
  have hfit : fit ⟨512, 3, 1, false⟩ .fat12 1021 = .ok (some ⟨339, 2⟩) :=
    eq_ok_of_toOption (by decide)
  have hfit' : fit ⟨512, 4, 2, true⟩ .fat16 217515 = .ok (some ⟨54270, 216⟩) :=
    eq_ok_of_toOption (by decide)
  obtain ⟨one, hone, -, hle⟩ := (fit_sizing _ hplain .fat12 1021 (by decide)).2.2 _ hfit
  obtain ⟨least, hleast, -, hle'⟩ := (fit_sizing _ haligned .fat16 217515 (by decide)).2.2 _ hfit'
  have heq : one = 1 :=
    Nat.le_antisymm (hone.2 ⟨by decide, by decide⟩) (Nat.le_of_add_le_add_right (b := 1) hle)
  have heq' : least = 212 :=
    Nat.le_antisymm (hleast.2 ⟨by decide, by decide⟩) (Nat.le_of_add_le_add_right (b := 4) hle')
  have hpower : ¬IsPowerOfTwo 3 := by decide
  exact ⟨hplain, haligned, hodd, hfit, heq ▸ hone, hfit', heq' ▸ hleast,
    ((fit_sizing _ hodd .fat12 1021 (by decide)).1 _).2 ⟨rfl, fun hn => hpower (hn rfl)⟩⟩

end Layout.Candidate

end FatVolume
