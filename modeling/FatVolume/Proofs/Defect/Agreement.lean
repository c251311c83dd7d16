import FatVolume.Proofs.Defect.Listing
import FatVolume.Proofs.Defect.Scan

/-!
# Scans and lists agree

A scan reads groups of whole sectors up to the last cluster; a list names blocks of 1 KiB up to the
end of the device. The two meet because sector sizes are powers of two: a sector is covered by a
block just if the block starts in the group of the sector (`covers_iff_group`). So a disk on which
just the listed blocks are bad is scanned to the same clusters as the list marks, and it is refused
just if the list is.
-/

namespace FatVolume

namespace BlockList

/-- A block covers the sectors of the group in which it starts, as far as it has them. -/
theorem covers_iff_group {sectorSize block s : Nat} (h : Layout.IsSectorSize sectorSize) :
    Covers sectorSize block s ↔ block * blockBytes / sectorSize =
      s / Scan.blockSectors sectorSize * Scan.blockSectors sectorSize := by
  have hpos := h.1.pos
  unfold Covers
  rcases Scan.blockSectors_cases h with hwhole | ⟨⟨m, hm⟩, hsingle⟩
  · have hgroup := Scan.blockSectors_pos sectorSize
    generalize Scan.blockSectors sectorSize = group at hwhole hgroup
    have hbytes : ∀ n, n * blockBytes = n * group * sectorSize := fun n => by
      rw [← hwhole, Nat.mul_comm sectorSize, Nat.mul_assoc]
    rw [hbytes, hbytes, Nat.mul_lt_mul_right hpos, Nat.mul_lt_mul_right hpos,
      Nat.mul_div_cancel _ hpos, Nat.mul_left_inj (Nat.ne_of_gt hgroup), eq_comm (a := block),
      Nat.div_eq_iff hgroup, Nat.succ_mul]
    omega
  · have hm' : 0 < m := Nat.pos_of_mul_pos_left (hm ▸ hpos)
    have hblock : 0 < blockBytes := by decide
    have hbytes : ∀ n, n * sectorSize = n * m * blockBytes := fun n => by
      rw [hm, Nat.mul_comm blockBytes, Nat.mul_assoc]
    rw [hsingle, Nat.div_one, Nat.mul_one, hbytes, hbytes, Nat.mul_lt_mul_right hblock,
      Nat.mul_lt_mul_right hblock, hm, Nat.mul_comm blockBytes,
      Nat.mul_div_mul_right _ _ hblock, Nat.div_eq_iff hm', Nat.succ_mul]
    omega

end BlockList

namespace Scan

open BlockList (Covers Fits)

variable {d : RamDisk} {l : Layout} {listed : List Nat} {k s : Nat}

/-- The bad blocks of a disk with listed bad sectors are those with a listed sector. -/
theorem isBad_iff_covers
    (hdisk : ∀ s, s ∈ d.unreadable ↔ ∃ block ∈ listed, Covers l.sectorSize block s) :
    IsBad d l k ↔ ∃ block ∈ listed, ∃ s, Covers l.sectorSize block s ∧
      s / blockSectors l.sectorSize = k ∧ s < l.dataEnd := by
  rw [isBad_iff]
  constructor
  · rintro ⟨s, hs, hk⟩
    obtain ⟨block, hblock, hcovers⟩ := (hdisk s).1 hs
    exact ⟨block, hblock, s, hcovers, hk⟩
  · rintro ⟨block, hblock, s, hcovers, hk⟩
    exact ⟨s, (hdisk s).2 ⟨block, hblock, hcovers⟩, hk⟩

/-- A listed block does not fit just if a scan would find a block before the data. -/
theorem exists_isBad_before_iff (h : l.Sound)
    (hlisted : ∀ block ∈ listed, block < BlockList.blockCount l)
    (hdisk : ∀ s, s ∈ d.unreadable ↔ ∃ block ∈ listed, Covers l.sectorSize block s) :
    (∃ k, IsBad d l k ∧ blockStart l k < l.dataStart) ↔ ∃ block ∈ listed, ¬Fits l block := by
  constructor
  · rintro ⟨k, hbad, hbefore⟩
    obtain ⟨block, hblock, s, hcovers, rfl, -⟩ := (isBad_iff_covers hdisk).1 hbad
    refine ⟨block, hblock, fun hfits => ?_⟩
    have hfirst := (BlockList.covers_iff_group h.sectorSize).1 hcovers
    exact Nat.not_lt.2 hfits.2 (hfirst ▸ hbefore)
  · rintro ⟨block, hblock, hmisfit⟩
    have hcovers := BlockList.covers_first h.sectorSize.1.pos block
    have hbefore : block * blockBytes / l.sectorSize < l.dataStart :=
      Nat.not_le.1 fun hle => hmisfit ⟨hlisted block hblock, hle⟩
    have hgroup := (BlockList.covers_iff_group h.sectorSize).1 hcovers
    refine ⟨_, (isBad_iff_covers hdisk).2 ⟨block, hblock, _, hcovers, rfl, ?_⟩, ?_⟩
    · exact hbefore.trans_le (Nat.le_add_right _ _)
    · exact hgroup.symm.trans_lt hbefore

/-- The blocks that a scan finds bad are the listed sectors as far as the last cluster. -/
theorem exists_isBad_block_iff (h : l.Sound)
    (hdisk : ∀ s, s ∈ d.unreadable ↔ ∃ block ∈ listed, Covers l.sectorSize block s)
    (hs : s < l.dataEnd) :
    (∃ k, IsBad d l k ∧ s ∈ block l k) ↔ ∃ block ∈ listed, Covers l.sectorSize block s := by
  constructor
  · rintro ⟨k, hbad, hblock⟩
    obtain ⟨rfl, -⟩ := mem_block.1 hblock
    obtain ⟨block, hlisted, u, hcovers, hgroup, -⟩ := (isBad_iff_covers hdisk).1 hbad
    refine ⟨block, hlisted, (BlockList.covers_iff_group h.sectorSize).2 ?_⟩
    rw [← hgroup]
    exact (BlockList.covers_iff_group h.sectorSize).1 hcovers
  · rintro ⟨block, hlisted, hcovers⟩
    exact ⟨_, (isBad_iff_covers hdisk).2 ⟨block, hlisted, s, hcovers, rfl, hs⟩,
      mem_block.2 ⟨rfl, hs⟩⟩

end Scan

/-- **A scan and a list agree.** On a disk of the size of a computed layout whose bad sectors are just
those that listed blocks cover, a scan is refused for a block before the data just if a list of these
blocks is refused for a block out of range. Otherwise both succeed, with the same bad clusters: those
that hold a sector of a listed block. -/
theorem scan_agrees_with_list {g : Geometry} {o : Layout.Options} {l : Layout} {d : RamDisk}
    {blocks : Finset Nat} {text : String} {names : List Nat} (hl : Layout.compute g o = .ok l)
    (hblocks : ∀ block ∈ blocks, block < BlockList.blockCount l)
    (hsize : d.sectorSize.toNat = l.sectorSize) (hcount : d.sectorCount = l.totalSectors)
    (hdisk : ∀ s, s ∈ d.unreadable ↔ ∃ block ∈ blocks, BlockList.Covers l.sectorSize block s)
    (hparse : BlockList.parse text = .ok names) (hnames : ∀ block, block ∈ names ↔ block ∈ blocks) :
    ((∃ sector, (Scan.sectors (.ram d) l).outcome = refuse (.beforeData sector)) ↔
      ∃ block, BlockList.mark text l = refuse (.outOfRange block)) ∧
    ((∀ sector, (Scan.sectors (.ram d) l).outcome ≠ refuse (.beforeData sector)) →
      ∃ found marked clusters, (Scan.sectors (.ram d) l).outcome = .ok found ∧
        BlockList.mark text l = .ok marked ∧
        badClusters l found = .ok clusters ∧ badClusters l marked = .ok clusters ∧
        ∀ cluster, cluster ∈ clusters ↔ cluster ∈ l.clusters ∧
          ∃ s, (∃ block ∈ blocks, BlockList.Covers l.sectorSize block s) ∧ l.Holds cluster s) := by
  have hsound := Layout.sound_of_compute hl
  have hend : l.dataEnd ≤ d.sectorCount := hcount ▸ hsound.dataEnd_le
  have hlisted : ∀ block ∈ names, block < BlockList.blockCount l := fun block hblock =>
    hblocks block ((hnames block).1 hblock)
  have hnamed : ∀ s, s ∈ d.unreadable ↔ ∃ block ∈ names, BlockList.Covers l.sectorSize block s := by
    simp only [hdisk, hnames, implies_true]
  have hbefore := Scan.exists_isBad_before_iff hsound hlisted hnamed
  rw [BlockList.mark_of_parse hparse]
  rcases BlockList.sectors_cases hsound names with hfits | ⟨block, hblock, hmisfit, hrefused⟩
  · have hdata : ∀ k, Scan.IsBad d l k → l.dataStart ≤ Scan.blockStart l k := fun k hk =>
      Nat.not_lt.1 fun hlt => by
        obtain ⟨block, hblock, hmisfit⟩ := hbefore.1 ⟨k, hk, hlt⟩
        exact hmisfit (hfits block hblock)
    obtain ⟨found, hfound, hmem⟩ := Scan.sectors_found hsound hsize hend hdata
    obtain ⟨marked, hmarked, hmem'⟩ := BlockList.sectors_of_fits hsound hfits
    rw [hfound, hmarked]
    refine ⟨iff_of_false nofun nofun, fun _ => ?_⟩
    obtain ⟨clusters, hclusters, hhit⟩ := hsound.badClusters_eq marked
    have hsame : badClusters l found = badClusters l marked :=
      hsound.badClusters_congr fun s hs => by
        rw [hmem, hmem']
        exact Scan.exists_isBad_block_iff hsound hnamed hs
    refine ⟨found, marked, clusters, rfl, rfl, hsame.trans hclusters, hclusters, fun cluster => ?_⟩
    rw [← Std.ExtTreeSet.mem_toList, ← List.mem_toFinset, hhit, Layout.mem_hit_iff]
    simp only [Std.ExtTreeSet.mem_toList, hmem', hnames]
  · obtain ⟨k, hbad, hlt⟩ := hbefore.2 ⟨block, hblock, hmisfit⟩
    obtain ⟨j, hj, hleast⟩ := Scan.exists_isLeast_isBad hbad
    have hstart : Scan.blockStart l j ≤ Scan.blockStart l k := Nat.mul_le_mul_right _ hj
    have hscan := Scan.sectors_refused hsound hsize hend hleast (hstart.trans_lt hlt)
    exact ⟨iff_of_true ⟨_, hscan⟩ ⟨block, hrefused⟩, fun hn => absurd hscan (hn _)⟩

/-- On a floppy disk a scan and a list find the four clusters of two blocks, and neither takes the block
that the first sector of the data shares with the root directory. -/
theorem scan_agrees_with_list_floppy :
    ∃ l, Layout.compute ⟨512, 2880, ⟨2, 18⟩, 0⟩ {} = .ok l ∧
      (∃ found marked clusters,
        (Scan.sectors (.ram (Scan.damagedFloppy [52, 53, 2878, 2879])) l).outcome = .ok found ∧
        BlockList.mark "26\n\n 1439" l = .ok marked ∧
        badClusters l found = .ok clusters ∧ badClusters l marked = .ok clusters ∧
        ∀ cluster, cluster ∈ clusters ↔
          cluster = 3 ∨ cluster = 4 ∨ cluster = 2829 ∨ cluster = 2830) ∧
      ∃ sector, (Scan.sectors (.ram (Scan.damagedFloppy [50, 51])) l).outcome =
        refuse (.beforeData sector) := by
  have hl := Layout.compute_floppy
  have hsound := Layout.sound_of_compute hl
  refine ⟨_, hl, ?_, ?_⟩
  · have hparse : BlockList.parse "26\n\n 1439" = .ok [26, 1439] := eq_ok_of_toOption (by decide)
    have hdisk : ∀ s, s ∈ (Scan.damagedFloppy [52, 53, 2878, 2879]).unreadable ↔
        ∃ block ∈ ({26, 1439} : Finset Nat), BlockList.Covers 512 block s := by
      intro s
      rw [Scan.mem_unreadable_damagedFloppy]
      simp only [List.mem_cons, List.not_mem_nil, or_false, Finset.mem_insert, Finset.mem_singleton,
        exists_eq_or_imp, exists_eq_left, BlockList.Covers, blockBytes]
      omega
    obtain ⟨hiff, hagree⟩ := scan_agrees_with_list hl (by decide) rfl
      (Scan.sectorCount_damagedFloppy _) hdisk hparse (by simp)
    have hfits : ∀ block ∈ [26, 1439], BlockList.Fits
        ⟨.fat12, 512, 1, 2829, 9, 2, 1, 512, 32, 51, 2880, false⟩ block := by decide
    obtain ⟨marked, hmarked, -⟩ := BlockList.sectors_of_fits hsound hfits
    rw [BlockList.mark_of_parse hparse, hmarked] at hiff
    obtain ⟨found, marked, clusters, hfound, hmark, hscanned, hlisted, hclusters⟩ :=
      hagree fun sector hscan => nomatch hiff.1 ⟨sector, hscan⟩
    refine ⟨found, marked, clusters, hfound, hmark, hscanned, hlisted, fun cluster => ?_⟩
    rw [hclusters, Layout.mem_clusters_iff]
    simp only [Finset.mem_insert, Finset.mem_singleton, exists_eq_or_imp, exists_eq_left,
      BlockList.Covers, blockBytes, Layout.Holds, Layout.clusterStart, reservedEntries]
    constructor
    · rintro ⟨hrange, s, hcovers, hholds⟩
      omega
    · intro hcluster
      exact ⟨by omega, 51 + (cluster - 2), by omega, by omega⟩
  · have hparse : BlockList.parse "25" = .ok [25] := eq_ok_of_toOption (by decide)
    have hdisk : ∀ s, s ∈ (Scan.damagedFloppy [50, 51]).unreadable ↔
        ∃ block ∈ ({25} : Finset Nat), BlockList.Covers 512 block s := by
      intro s
      rw [Scan.mem_unreadable_damagedFloppy]
      simp only [List.mem_cons, List.not_mem_nil, or_false, Finset.mem_singleton, exists_eq_left,
        BlockList.Covers, blockBytes]
      omega
    refine (scan_agrees_with_list hl (by decide) rfl (Scan.sectorCount_damagedFloppy _) hdisk hparse
      (by simp)).1.2 ⟨25, ?_⟩
    rw [BlockList.mark_of_parse hparse]
    exact BlockList.sectors_of_misfit hsound (by decide)

end FatVolume
