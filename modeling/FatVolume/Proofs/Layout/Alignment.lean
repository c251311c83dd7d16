import FatVolume.Proofs.Layout.Clusters
import FatVolume.Proofs.Layout.Recount

/-!
# Aligned layouts

Areas are rounded up to clusters on devices that are large enough, if alignment is asked for. The
sizes of reserved area and root directory are then the least multiples of the cluster size that serve
the request, and they are the least sizes otherwise. Every area and every cluster of an aligned layout
starts on a multiple of the cluster size (`compute_alignment`), with one exception: a root directory
that would be filled with more entries than its field can count keeps the size that it needs.
-/

namespace FatVolume.Layout

/-- Sectors of the reserved area that options ask for on a width, or the usual ones; FAT32 has two at
least. -/
def Options.reservedFor (o : Options) (w : Width) : Nat :=
  if w = .fat32 then max 2 (o.reservedSectors.elim 32 UInt32.toNat)
  else o.reservedSectors.elim 1 UInt32.toNat

/-- So many sectors hold the entries of the root directory that options ask for. -/
def Options.FitsRoot (o : Options) (l : Layout) (sectors : Nat) : Prop :=
  o.rootEntries.toNat * directoryEntryBytes ≤ sectors * l.sectorSize

/-- The root directory has the entries that options ask for, and no sector that they do not need. -/
structure HasPlainRoot (o : Options) (l : Layout) : Prop where
  /-- The entries are those asked for. -/
  entries : l.rootEntries = o.rootEntries.toNat
  /-- The sectors are the least number that holds them. -/
  sectors : IsLeast {n | o.FitsRoot l n} l.rootSectors

/-- The root directory has no cluster that the entries asked for do not need, and is filled with
entries. -/
structure HasAlignedRoot (o : Options) (l : Layout) : Prop where
  /-- The sectors are the least whole clusters that hold the entries asked for. -/
  sectors : IsLeast {n | l.clusterSectors ∣ n ∧ o.FitsRoot l n} l.rootSectors
  /-- The entries fill the sectors. -/
  entries : l.rootEntries * directoryEntryBytes = l.rootSectors * l.sectorSize

/-- The least whole clusters that hold the entries asked for hold more entries than the field of the
boot sector can count. -/
def RootOverflows (o : Options) (l : Layout) : Prop :=
  ∃ n, IsLeast {n | l.clusterSectors ∣ n ∧ o.FitsRoot l n} n ∧
    maxField16 * directoryEntryBytes < n * l.sectorSize

/-- An area of an aligned candidate is the least number of whole clusters for its sectors. -/
theorem Candidate.WellFormed.isLeast_area {c : Candidate} (h : c.WellFormed) (ha : c.align = true)
    {P : Nat → Prop} {sectors : Nat} (hP : ∀ n, P n ↔ sectors ≤ n) :
    IsLeast {n | c.clusterSectors ∣ n ∧ P n} (c.area sectors) := by
  rw [← Candidate.unit_of_align ha]
  exact h.sized.isLeast_area hP

namespace Parameters

variable {p : Parameters} {choice : Choice} {g : Geometry} {o : Options}

/-- The reserved sectors before alignment are those that go with the width. -/
theorem Found.reserved_settled (hf : (settled g o).Found choice) :
    (settled g o).reserved = o.reservedFor choice.width := by
  have hreserved : (settled g o).reserved = if (settled g o).width = some .fat32
      then max 2 (requestedReserved o ((settled g o).width = some .fat32))
      else requestedReserved o ((settled g o).width = some .fat32) := rfl
  rw [hreserved]
  unfold requestedReserved Options.reservedFor
  by_cases hw : choice.width = .fat32
  · have hp := hf.width_eq_fat32_iff.1 hw
    rw [if_pos hp, if_pos hw]
    cases o.reservedSectors with
    | none => simp only [hp, decide_true, if_true, Option.elim_none]
    | some n => rfl
  · have hp : (settled g o).width ≠ some .fat32 := fun hp => hw (hf.width_eq_fat32_iff.2 hp)
    rw [if_neg hp, if_neg hw]
    cases o.reservedSectors with
    | none => simp only [hp, decide_false, Bool.false_eq_true, if_false, Option.elim_none]
    | some n => rfl

/-- The sectors of the root directory before alignment are the least that hold its entries. -/
theorem Found.le_iff_fitsRoot (hf : (settled g o).Found choice) (h : (settled g o).WellFormed)
    (hw : choice.width ≠ .fat32) (n : Nat) :
    o.FitsRoot ((settled g o).layoutFor choice) n ↔ (settled g o).rootSectors ≤ n := by
  unfold Options.FitsRoot
  rw [h.rootSectors_eq, hf.rootEntries_settled hw, ceilDiv_eq,
    ceilDiv_le_iff_le_mul h.sectorSize.1.pos, Nat.mul_comm (settled g o).sectorSize]
  rfl

/-- The root directory that could be aligned is the least number of whole clusters. -/
theorem Found.isLeast_alignedRoot (hf : (settled g o).Found choice) (h : (settled g o).WellFormed)
    (ha : (settled g o).align = true) (hw : choice.width ≠ .fat32) :
    IsLeast {n | choice.candidate.clusterSectors ∣ n ∧
        o.FitsRoot ((settled g o).layoutFor choice) n}
      (choice.candidate.area (settled g o).rootSectors) :=
  (hf.candidate h).isLeast_area (hf.align_eq.trans ha) (hf.le_iff_fitsRoot h hw)

/-- A root directory that is not aligned has the entries that are asked for. -/
theorem Found.hasPlainRoot (hf : (settled g o).Found choice) (h : (settled g o).WellFormed)
    (hw : choice.width ≠ .fat32)
    (hroot : (settled g o).rootOf choice = ((settled g o).rootSectors, (settled g o).rootEntries)) :
    HasPlainRoot o ((settled g o).layoutFor choice) where
  entries := (congrArg Prod.snd hroot).trans (hf.rootEntries_settled hw)
  sectors := by
    have hsectors : ((settled g o).layoutFor choice).rootSectors = (settled g o).rootSectors :=
      congrArg Prod.fst hroot
    rw [hsectors]
    exact ⟨(hf.le_iff_fitsRoot h hw _).2 le_rfl, fun n hn => (hf.le_iff_fitsRoot h hw n).1 hn⟩

/-- A root directory that would hold too many entries in whole clusters keeps its own size, any
other one of an aligned layout is whole clusters filled with entries. Whole clusters hold whole
entries, so the area overflows just if its entries do. -/
theorem Found.alignedRoot (hf : (settled g o).Found choice) (h : (settled g o).WellFormed)
    (ha : (settled g o).align = true) (hw : choice.width ≠ .fat32) :
    (RootOverflows o ((settled g o).layoutFor choice) →
      HasPlainRoot o ((settled g o).layoutFor choice)) ∧
    (¬RootOverflows o ((settled g o).layoutFor choice) →
      HasAlignedRoot o ((settled g o).layoutFor choice)) := by
  have hleast := hf.isLeast_alignedRoot h ha hw
  have hdvd : directoryEntryBytes ∣
      choice.candidate.area (settled g o).rootSectors * (settled g o).sectorSize :=
    Dvd.dvd.mul_left h.sectorSize.directoryEntryBytes_dvd _
  have hover : RootOverflows o ((settled g o).layoutFor choice) ↔
      ¬choice.candidate.area (settled g o).rootSectors * (settled g o).sectorSize /
        directoryEntryBytes ≤ maxField16 := by
    rw [Nat.not_le, Nat.lt_div_iff_mul_lt_of_dvd (by decide) hdvd]
    constructor
    · rintro ⟨n, hn, hlt⟩
      rwa [hn.unique hleast] at hlt
    · exact fun hlt => ⟨_, hleast, hlt⟩
  have hroot : (settled g o).rootOf choice = if choice.candidate.area (settled g o).rootSectors *
      (settled g o).sectorSize / directoryEntryBytes ≤ maxField16 then
        (choice.candidate.area (settled g o).rootSectors,
          choice.candidate.area (settled g o).rootSectors * (settled g o).sectorSize /
            directoryEntryBytes)
      else ((settled g o).rootSectors, (settled g o).rootEntries) := by
    unfold rootOf
    dsimp only
    rw [if_neg hw]
    simp only [ha, true_and]
  constructor
  · intro hn
    rw [if_neg (hover.1 hn)] at hroot
    exact hf.hasPlainRoot h hw hroot
  · intro hn
    rw [if_pos (Decidable.not_not.1 fun hle => hn (hover.2 hle))] at hroot
    have hsectors : ((settled g o).layoutFor choice).rootSectors = _ := congrArg Prod.fst hroot
    have hentries : ((settled g o).layoutFor choice).rootEntries = _ := congrArg Prod.snd hroot
    exact {
      sectors := hsectors ▸ hleast
      entries := by
        rw [hsectors, hentries]
        exact Nat.div_mul_cancel hdvd }

/-- The data of an aligned layout starts on a multiple of the cluster size, unless the root directory
would hold too many entries. -/
theorem Found.dvd_dataStart (hf : (settled g o).Found choice) (h : (settled g o).WellFormed)
    (ha : (settled g o).align = true)
    (hroot : choice.width = .fat32 ∨ ¬RootOverflows o ((settled g o).layoutFor choice)) :
    choice.candidate.clusterSectors ∣ ((settled g o).layoutFor choice).dataStart := by
  refine Nat.dvd_add (hf.dvd_areas ha) ?_
  by_cases hw : choice.width = .fat32
  · have hzero : (settled g o).rootOf choice = (0, 0) := if_pos hw
    rw [hzero]
    exact Nat.dvd_zero _
  · exact ((hf.alignedRoot h ha hw).2 (hroot.resolve_left hw)).sectors.1.1

end Parameters

/-- In a layout whose reserved area and tables are whole clusters every table starts on a multiple of
the cluster size. -/
theorem dvd_tableStart {l : Layout} (hreserved : l.clusterSectors ∣ l.reservedSectors)
    (htables : l.clusterSectors ∣ l.tableSectors) (copy : Nat) :
    l.clusterSectors ∣ l.tableStart copy :=
  Nat.dvd_add hreserved (Dvd.dvd.mul_left htables copy)

/-- If the data starts on a multiple of the cluster size, so does every cluster. -/
theorem dvd_clusterStart {l : Layout} (hdata : l.clusterSectors ∣ l.dataStart) (cluster : Nat) :
    l.clusterSectors ∣ l.clusterStart cluster :=
  Nat.dvd_add hdata (Nat.dvd_mul_left _ _)

/-- The root directory starts on a multiple of the cluster size if the tables, and on FAT32 the data,
do. -/
theorem Sound.dvd_rootStart {l : Layout} (h : l.Sound)
    (htables : ∀ copy, l.clusterSectors ∣ l.tableStart copy)
    (hdata : l.width = .fat32 → l.clusterSectors ∣ l.dataStart) {cluster : Nat}
    (hc : cluster ∈ l.clusters) :
    ∃ sector, l.rootStart cluster = .ok sector ∧ l.clusterSectors ∣ sector := by
  unfold rootStart
  cases hw : l.width with
  | fat12 => exact ⟨_, rfl, htables _⟩
  | fat16 => exact ⟨_, rfl, htables _⟩
  | fat32 => exact ⟨_, h.clusterToSector_eq hc, dvd_clusterStart (hdata hw) cluster⟩

/-- For every device and all options a computed layout is aligned just if alignment is asked for and
the device has more than 8192 sectors. If not, the reserved area and, on FAT12 and FAT16, the root
directory have the sizes asked for. If so, the reserved area is the least number of whole clusters
for them, the tables are whole clusters, and the root directory is the least number of whole clusters,
filled with entries; then tables, root directory, data and clusters start on multiples of the cluster
size. Only a root directory of FAT12 and FAT16 with too many entries for their field has the size that
it has without alignment. -/
theorem compute_alignment (g : Geometry) (o : Options) (l : Layout) (h : compute g o = .ok l) :
    (l.aligned = true ↔ o.align = true ∧ 8192 < g.totalSectors.toNat) ∧
    (l.aligned = false → l.reservedSectors = o.reservedFor l.width ∧
      (l.width ≠ .fat32 → HasPlainRoot o l)) ∧
    (l.aligned = true →
      IsLeast {n | l.clusterSectors ∣ n ∧ o.reservedFor l.width ≤ n} l.reservedSectors ∧
      l.clusterSectors ∣ l.tableSectors ∧ (∀ copy, l.clusterSectors ∣ l.tableStart copy) ∧
      (∀ cluster ∈ l.clusters, ∃ sector, l.rootStart cluster = .ok sector ∧
        l.clusterSectors ∣ sector) ∧
      (l.width ≠ .fat32 → RootOverflows o l → HasPlainRoot o l) ∧
      (l.width ≠ .fat32 → ¬RootOverflows o l → HasAlignedRoot o l) ∧
      (l.width = .fat32 ∨ ¬RootOverflows o l → l.clusterSectors ∣ l.dataStart ∧
        ∀ cluster, l.clusterSectors ∣ l.clusterStart cluster)) := by
  have hsound := sound_of_compute h
  obtain ⟨choice, hwell, hf, -, -, rfl⟩ := exists_choice_of_compute h
  have haligned : ((Parameters.settled g o).layoutFor choice).aligned = true ↔
      o.align = true ∧ 8192 < g.totalSectors.toNat := by
    show (o.align && decide (8192 < g.totalSectors.toNat)) = true ↔ _
    rw [Bool.and_eq_true, decide_eq_true_eq]
  have hreserved : ((Parameters.settled g o).layoutFor choice).reservedSectors =
      choice.candidate.area (o.reservedFor choice.width) := by
    rw [← hf.reserved_settled]
    rfl
  refine ⟨haligned, fun hn => ?_, fun ha => ?_⟩
  · have hplain : ∀ sectors, choice.candidate.area sectors = sectors := fun sectors =>
      if_neg fun ha => Bool.false_ne_true (hn.symm.trans (hf.align_eq.symm.trans ha))
    refine ⟨hreserved.trans (hplain _), fun hw => hf.hasPlainRoot hwell hw ?_⟩
    unfold Parameters.rootOf
    dsimp only
    rw [if_neg (show choice.width ≠ .fat32 from hw),
      if_neg fun ha => Bool.false_ne_true (hn.symm.trans ha.1)]
  · have halign := hf.align_eq.trans ha
    have hleast : IsLeast {n | choice.candidate.clusterSectors ∣ n ∧ o.reservedFor choice.width ≤ n}
        ((Parameters.settled g o).layoutFor choice).reservedSectors := by
      rw [hreserved]
      exact (hf.candidate hwell).isLeast_area halign fun _ => Iff.rfl
    have htables : choice.candidate.clusterSectors ∣ choice.fit.tableSectors := by
      rw [hf.fits.2.2]
      exact Candidate.dvd_area halign _
    have hstarts := dvd_tableStart (l := (Parameters.settled g o).layoutFor choice)
      hleast.1.1 htables
    have hdata := hf.dvd_dataStart hwell ha
    exact ⟨hleast, htables, hstarts,
      fun cluster hc => hsound.dvd_rootStart hstarts (fun hw => hdata (Or.inl hw)) hc,
      fun hw => (hf.alignedRoot hwell ha hw).1, fun hw => (hf.alignedRoot hwell ha hw).2,
      fun hroot => ⟨hdata hroot, dvd_clusterStart (hdata hroot)⟩⟩

/-- On a device with sectors of 32 KiB and clusters of two sectors the 64000 entries of a root
directory need 63 sectors, and 64 would hold 65536. The directory keeps its size, and the data starts
on an odd sector behind it; the tables do not. -/
theorem compute_alignment_overflow :
    ∃ l, compute ⟨32768, 8239, ⟨64, 32⟩, 0⟩
        { rootEntries := 64000, clusterSectors := some 2 } = .ok l ∧
      RootOverflows { rootEntries := 64000, clusterSectors := some 2 } l ∧
      HasPlainRoot { rootEntries := 64000, clusterSectors := some 2 } l ∧
      (∀ copy, 2 ∣ l.tableStart copy) ∧ l.dataStart = 69 := by
  have hl : compute ⟨32768, 8239, ⟨64, 32⟩, 0⟩
      { rootEntries := 64000, clusterSectors := some 2 } =
        .ok ⟨.fat12, 32768, 2, 4084, 2, 2, 2, 64000, 63, 69, 8239, true⟩ :=
    eq_ok_of_toOption (by decide)
  obtain ⟨-, -, haligned⟩ := compute_alignment _ _ _ hl
  obtain ⟨-, -, htables, -, hplain, -⟩ := haligned rfl
  have hover : RootOverflows { rootEntries := 64000, clusterSectors := some 2 }
      ⟨.fat12, 32768, 2, 4084, 2, 2, 2, 64000, 63, 69, 8239, true⟩ := by
    refine ⟨64, ⟨⟨by decide, ?_⟩, ?_⟩, by decide⟩
    · show 64000 * 32 ≤ 64 * 32768
      decide
    · rintro n ⟨hdvd, hfits⟩
      have hdvd : 2 ∣ n := hdvd
      have hfits : 64000 * 32 ≤ n * 32768 := hfits
      omega
  exact ⟨_, hl, hover, hplain (by decide) hover, htables, rfl⟩

end FatVolume.Layout
