import Mathlib.Order.Interval.Finset.Nat
import FatVolume.Defect
import FatVolume.Proofs.Device.Medium
import FatVolume.Proofs.Layout.Sound

/-!
# Clusters that sectors hit

The clusters of a volume are numbered from 2 on. In a sound layout every sector is found in the
cluster that holds it, so a set of sectors hits just the clusters with one of its sectors
(`badClusters_eq`).
-/

namespace FatVolume

namespace Layout

/-- The clusters of a volume. -/
def clusters (l : Layout) : Finset Nat :=
  Finset.Ico reservedEntries (l.clusterCount + reservedEntries)

/-- A cluster holds a sector. -/
def Holds (l : Layout) (cluster sector : Nat) : Prop :=
  l.clusterStart cluster ≤ sector ∧ sector < l.clusterStart cluster + l.clusterSectors

instance (l : Layout) (cluster sector : Nat) : Decidable (l.Holds cluster sector) :=
  inferInstanceAs (Decidable (_ ∧ _))

/-- The clusters of a volume that hold any of the sectors. -/
def hit (l : Layout) (sectors : SectorSet) : Finset Nat :=
  l.clusters.filter fun cluster => ∃ sector ∈ sectors.toList, l.Holds cluster sector

variable {l : Layout} {cluster sector : Nat}

/-- The clusters have the numbers from 2 on. -/
theorem mem_clusters_iff :
    cluster ∈ l.clusters ↔ reservedEntries ≤ cluster ∧ cluster < l.clusterCount + reservedEntries :=
  Finset.mem_Ico

/-- A volume has as many clusters as its layout says. -/
@[simp] theorem card_clusters (l : Layout) : l.clusters.card = l.clusterCount := by
  unfold clusters
  rw [Nat.card_Ico, Nat.add_sub_cancel]

/-- A cluster is hit by the sectors that it holds. -/
theorem mem_hit_iff {sectors : SectorSet} :
    cluster ∈ l.hit sectors ↔
      cluster ∈ l.clusters ∧ ∃ sector ∈ sectors.toList, l.Holds cluster sector :=
  Finset.mem_filter

/-- Only clusters of the volume are hit. -/
theorem hit_subset (l : Layout) (sectors : SectorSet) : l.hit sectors ⊆ l.clusters :=
  Finset.filter_subset _ _

/-- In the data area the cluster of a sector is given by its distance from the start. -/
theorem holds_iff (hpos : 0 < l.clusterSectors) (hc : reservedEntries ≤ cluster) :
    l.Holds cluster sector ↔ l.dataStart ≤ sector ∧
      (sector - l.dataStart) / l.clusterSectors + reservedEntries = cluster := by
  obtain ⟨k, rfl⟩ := Nat.exists_eq_add_of_le hc
  unfold Holds clusterStart
  rw [Nat.add_sub_cancel_left, Nat.add_comm reservedEntries k, Nat.add_right_cancel_iff]
  constructor
  · rintro ⟨hlow, hhigh⟩
    refine ⟨by omega, Nat.div_eq_of_lt_le (by omega) ?_⟩
    rw [Nat.succ_mul]
    omega
  · rintro ⟨hstart, hdiv⟩
    have hle := Nat.div_mul_le_self (sector - l.dataStart) l.clusterSectors
    have hlt := Nat.lt_div_mul_add hpos (a := sector - l.dataStart)
    rw [hdiv] at hle hlt
    omega

/-- The clusters of a sound layout are counted in 28 bits. -/
theorem Sound.clusterCount_lt (h : l.Sound) : l.clusterCount < 2 ^ 28 :=
  h.le_maxClusters.trans_lt l.width.maxClusters_lt

/-- A word counts the sectors up to the end of the clusters of a sound layout. -/
theorem Sound.wordDataEnd_eq (h : l.Sound) : l.wordDataEnd = .ok l.dataEnd := by
  have hend := h.dataEnd_le
  have htotal := h.totalSectors_le
  simp only [maxField32] at htotal
  exact within_of_lt (by unfold dataEnd; omega)

/-- A cluster of a sound layout starts before the end of the clusters, so its first sector is found. -/
theorem Sound.clusterToSector_eq (h : l.Sound) (hc : cluster ∈ l.clusters) :
    l.clusterToSector cluster = .ok (l.clusterStart cluster) := by
  obtain ⟨hle, hlt⟩ := mem_clusters_iff.1 hc
  have hend := h.dataEnd_le
  have htotal := h.totalSectors_le
  have hmul := Nat.mul_le_mul_right l.clusterSectors
    (by omega : cluster - reservedEntries ≤ l.clusterCount)
  simp only [maxField32] at htotal
  unfold clusterToSector
  rw [invariant_of hle, ok_bind]
  exact within_of_lt (by unfold clusterStart; omega)

/-- In a sound layout a sector is found in the cluster that holds it. -/
theorem Sound.sectorToCluster_eq (h : l.Sound) (sector : Nat) :
    ∃ found, l.sectorToCluster sector = .ok found ∧
      ∀ cluster, found = some cluster ↔ cluster ∈ l.clusters ∧ l.Holds cluster sector := by
  have hpos := h.clusterSectors.1.pos
  unfold sectorToCluster
  by_cases hstart : sector < l.dataStart
  · rw [if_pos hstart]
    refine ⟨none, rfl, fun cluster => iff_of_false (Option.some_ne_none cluster).symm ?_⟩
    rintro ⟨hc, hholds⟩
    have hle := ((holds_iff hpos (mem_clusters_iff.1 hc).1).1 hholds).1
    omega
  · rw [if_neg hstart, h.wordDataEnd_eq, ok_bind, dataEnd]
    by_cases hlast : l.dataStart + l.clusterCount * l.clusterSectors ≤ sector
    · rw [if_pos hlast]
      refine ⟨none, rfl, fun cluster => iff_of_false (Option.some_ne_none cluster).symm ?_⟩
      rintro ⟨hc, hholds⟩
      obtain ⟨hle, hlt⟩ := mem_clusters_iff.1 hc
      have hdiv := ((holds_iff hpos hle).1 hholds).2
      have hcount : l.clusterCount ≤ (sector - l.dataStart) / l.clusterSectors :=
        (Nat.le_div_iff_mul_le hpos).2 (by omega)
      omega
    · have hcount : (sector - l.dataStart) / l.clusterSectors < l.clusterCount :=
        (Nat.div_lt_iff_lt_mul hpos).2 (by omega)
      have hmax := h.clusterCount_lt
      have hwords : (sector - l.dataStart) / l.clusterSectors + reservedEntries < 2 ^ 32 :=
        (Nat.add_lt_add_right hcount _).trans (by simp only [reservedEntries]; omega)
      rw [if_neg hlast, quotient_of_pos hpos, ok_bind,
        low32_of_lt (hcount.trans (hmax.trans (by decide))), within_of_lt hwords]
      refine ⟨_, rfl, fun cluster => ?_⟩
      rw [Option.some.injEq, mem_clusters_iff]
      constructor
      · rintro rfl
        exact ⟨⟨Nat.le_add_left _ _, Nat.add_lt_add_right hcount _⟩,
          (holds_iff hpos (Nat.le_add_left _ _)).2 ⟨Nat.not_lt.1 hstart, rfl⟩⟩
      · rintro ⟨⟨hle, -⟩, hholds⟩
        exact ((holds_iff hpos hle).1 hholds).2

/-- The clusters of a list of sectors are added to a set. -/
theorem Sound.addClusters_eq (h : l.Sound) (sectors : List Nat) (set : SectorSet) :
    ∃ found, addClusters l set sectors = .ok found ∧ ∀ cluster, cluster ∈ found ↔
      cluster ∈ set ∨ cluster ∈ l.clusters ∧ ∃ sector ∈ sectors, l.Holds cluster sector := by
  induction sectors generalizing set with
  | nil => exact ⟨set, rfl, fun cluster => by simp⟩
  | cons sector rest ih =>
    obtain ⟨found, hfound, hiff⟩ := h.sectorToCluster_eq sector
    unfold addClusters
    rw [hfound, ok_bind]
    cases found with
    | none =>
      obtain ⟨set', hset', hmem⟩ := ih set
      refine ⟨set', hset', fun cluster => ?_⟩
      have hnone : ¬(cluster ∈ l.clusters ∧ l.Holds cluster sector) := fun hn =>
        nomatch (hiff cluster).2 hn
      rw [hmem, List.exists_mem_cons_iff]
      tauto
    | some first =>
      obtain ⟨set', hset', hmem⟩ := ih (set.insert first)
      refine ⟨set', hset', fun cluster => ?_⟩
      have hsome := hiff cluster
      rw [Option.some.injEq, eq_comm] at hsome
      rw [hmem, SectorSet.mem_insert, List.exists_mem_cons_iff, hsome]
      tauto

/-- In a sound layout the bad clusters of sectors are those that they hit. -/
theorem Sound.badClusters_eq (h : l.Sound) (sectors : SectorSet) :
    ∃ found, badClusters l sectors = .ok found ∧ found.toList.toFinset = l.hit sectors := by
  obtain ⟨found, hfound, hmem⟩ := h.addClusters_eq sectors.toList ∅
  refine ⟨found, hfound, Finset.ext fun cluster => ?_⟩
  rw [List.mem_toFinset, Std.ExtTreeSet.mem_toList, hmem, mem_hit_iff]
  simp

/-- A cluster of the volume holds no sector after the last cluster. -/
theorem lt_dataEnd_of_holds (hc : cluster ∈ l.clusters) (h : l.Holds cluster sector) :
    sector < l.dataEnd := by
  obtain ⟨hle, hlt⟩ := mem_clusters_iff.1 hc
  have hmul : (cluster - reservedEntries + 1) * l.clusterSectors ≤
      l.clusterCount * l.clusterSectors := Nat.mul_le_mul_right _ (by omega)
  have hhigh := h.2
  rw [Nat.succ_mul] at hmul
  unfold clusterStart at hhigh
  unfold dataEnd
  omega

/-- Sectors after the last cluster make no difference to the bad clusters. -/
theorem Sound.badClusters_congr (h : l.Sound) {small large : SectorSet}
    (hsame : ∀ s < l.dataEnd, s ∈ small ↔ s ∈ large) :
    badClusters l small = badClusters l large := by
  obtain ⟨found, hfound, hsmall⟩ := h.badClusters_eq small
  obtain ⟨found', hfound', hlarge⟩ := h.badClusters_eq large
  have hhit : l.hit small = l.hit large := Finset.filter_congr fun cluster hc => by
    simp only [Std.ExtTreeSet.mem_toList]
    exact exists_congr fun sector => and_congr_left fun hholds =>
      hsame sector (lt_dataEnd_of_holds hc hholds)
  rw [hfound, hfound', Except.ok.injEq]
  refine Std.ExtTreeSet.ext_mem fun cluster => ?_
  rw [← Std.ExtTreeSet.mem_toList, ← List.mem_toFinset, hsmall, hhit, ← hlarge,
    List.mem_toFinset, Std.ExtTreeSet.mem_toList]

end Layout

end FatVolume
