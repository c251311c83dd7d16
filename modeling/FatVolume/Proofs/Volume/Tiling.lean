import FatVolume.Proofs.Volume.Defects

/-!
# Clusters tile the data area

Every sector of the data area lies in a cluster and no sector outside of it lies in any
(`exists_holds_iff`). Bad clusters are found sector by sector, so those of a union are the union of
those of its parts (`Sound.badClusters_union`), and each of them has an entry in the table of the
volume. `clusters_tile` puts this together for every layout that is computed.
-/

namespace FatVolume

namespace Layout

variable {l : Layout}

/-- The sectors of the clusters are those of the data area. -/
theorem exists_holds_iff (hpos : 0 < l.clusterSectors) (sector : Nat) :
    (∃ cluster ∈ l.clusters, l.Holds cluster sector) ↔
      l.dataStart ≤ sector ∧ sector < l.dataEnd := by
  constructor
  · rintro ⟨cluster, hc, hholds⟩
    exact ⟨((holds_iff hpos (mem_clusters_iff.1 hc).1).1 hholds).1, lt_dataEnd_of_holds hc hholds⟩
  · rintro ⟨hstart, hend⟩
    have hindex : (sector - l.dataStart) / l.clusterSectors < l.clusterCount := by
      rw [Nat.div_lt_iff_lt_mul hpos]
      unfold dataEnd at hend
      omega
    have hle := Nat.le_add_left reservedEntries ((sector - l.dataStart) / l.clusterSectors)
    exact ⟨_, mem_clusters_iff.2 ⟨hle, Nat.add_lt_add_right hindex _⟩,
      (holds_iff hpos hle).2 ⟨hstart, rfl⟩⟩

/-- In a sound layout just the sectors outside of the data area have no cluster. -/
theorem Sound.sectorToCluster_eq_none_iff (h : l.Sound) (sector : Nat) :
    l.sectorToCluster sector = .ok none ↔ sector < l.dataStart ∨ l.dataEnd ≤ sector := by
  have harea := exists_holds_iff h.clusterSectors.1.pos sector
  obtain ⟨found, hfound, hiff⟩ := h.sectorToCluster_eq sector
  have hnone : found = none ↔ ¬∃ cluster ∈ l.clusters, l.Holds cluster sector := by
    rw [Option.eq_none_iff_forall_not_mem, not_exists]
    exact forall_congr' fun cluster => not_congr (hiff cluster)
  rw [hfound, Except.ok.injEq, hnone, harea]
  omega

/-- In a sound layout a cluster is bad just if it holds a bad sector. -/
theorem Sound.exists_badClusters (h : l.Sound) (sectors : SectorSet) :
    ∃ found, badClusters l sectors = .ok found ∧
      ∀ cluster, cluster ∈ found ↔
        cluster ∈ l.clusters ∧ ∃ sector ∈ sectors, l.Holds cluster sector := by
  obtain ⟨found, hfound, hhit⟩ := h.badClusters_eq sectors
  refine ⟨found, hfound, fun cluster => ?_⟩
  rw [← Std.ExtTreeSet.mem_toList, ← List.mem_toFinset, hhit, mem_hit_iff]
  simp only [Std.ExtTreeSet.mem_toList]

/-- The bad clusters of two sets of sectors are those of either. -/
theorem Sound.badClusters_union (h : l.Sound) (a b : SectorSet) :
    badClusters l (a ∪ b) = do
      let first ← badClusters l a
      let second ← badClusters l b
      return first ∪ second := by
  obtain ⟨first, hfirst, hmem⟩ := h.exists_badClusters a
  obtain ⟨second, hsecond, hmem'⟩ := h.exists_badClusters b
  obtain ⟨both, hboth, hunion⟩ := h.exists_badClusters (a ∪ b)
  rw [hfirst, hsecond, hboth, ok_bind, ok_bind, pure_eq_ok, Except.ok.injEq]
  refine Std.ExtTreeSet.ext_mem fun cluster => ?_
  rw [Std.ExtTreeSet.mem_union_iff, hunion, hmem, hmem', ← and_or_left, ← exists_or]
  simp only [Std.ExtTreeSet.mem_union_iff, or_and_right]

end Layout

namespace FreshVolume

open Layout

/-- The table of the volume of a sound layout has an entry for every cluster, whatever was marked bad
before. -/
theorem exists_read_afterRequests {l : Layout} (h : l.Sound) (g : Geometry)
    (bootInfo v : VolumeInfo) (backup : UInt16) :
    ∃ start, make l (BootSector.fresh l g bootInfo backup) v = .ok start ∧
      ∀ requests, ∀ cluster ∈ l.clusters,
        ∃ entry, (start.afterRequests requests).table.read cluster = .ok entry := by
  have hboot := BootSector.isSome_fat32_fresh l g bootInfo backup
  have hroot := BootSector.rootCluster_fresh l g bootInfo backup
  refine ⟨_, make_eq h hroot v, fun requests cluster hc => ?_⟩
  obtain ⟨hafter, hbad, hroom⟩ := afterRequests_ofBad h hboot v.media
    (rootDirectoryOf (l.rootWriteSectors * l.sectorSize) v) requests (Finset.empty_subset _)
    (not_exhausts_empty h)
  rw [hafter, table_ofBad, Table.read, Table.getElem?_cluster hc]
  exact ⟨_, rfl⟩

end FreshVolume

namespace Layout

/-- **Clusters tile the data area.** For every device, all options and the layout that is computed:

* the first sector of every cluster and the end of the last one are found;
* a sector is found in the cluster whose sectors it is among, and in none just if it lies outside of
  the data area;
* the bad clusters of sectors are those with one of the sectors, and the bad clusters of a union are
  the union of the bad clusters;
* a bad cluster has an entry in the table of the volume, whatever its boot sector records and
  whatever was marked bad before. -/
theorem clusters_tile (g : Geometry) (o : Options) (l : Layout) (h : compute g o = .ok l) :
    (∀ cluster ∈ l.clusters, l.clusterToSector cluster = .ok (l.clusterStart cluster)) ∧
    l.wordDataEnd = .ok l.dataEnd ∧
    (∀ sector,
      (∀ cluster, l.sectorToCluster sector = .ok (some cluster) ↔
        cluster ∈ l.clusters ∧ l.Holds cluster sector) ∧
      (l.sectorToCluster sector = .ok none ↔ sector < l.dataStart ∨ l.dataEnd ≤ sector) ∧
      ∀ cause, l.sectorToCluster sector ≠ .error cause) ∧
    (∀ a b, badClusters l (a ∪ b) = do
      let first ← badClusters l a
      let second ← badClusters l b
      return first ∪ second) ∧
    ∀ sectors, ∃ found, badClusters l sectors = .ok found ∧
      (∀ cluster, cluster ∈ found ↔
        cluster ∈ l.clusters ∧ ∃ sector ∈ sectors, l.Holds cluster sector) ∧
      ∀ (recorded : Geometry) (bootInfo v : VolumeInfo) (backup : UInt16),
        ∃ start, FreshVolume.make l (BootSector.fresh l recorded bootInfo backup) v = .ok start ∧
          ∀ requests, ∀ cluster ∈ found,
            ∃ entry, (start.afterRequests requests).table.read cluster = .ok entry := by
  have hsound := sound_of_compute h
  refine ⟨fun cluster hc => hsound.clusterToSector_eq hc, hsound.wordDataEnd_eq, fun sector => ?_,
    hsound.badClusters_union, fun sectors => ?_⟩
  · obtain ⟨found, hfound, hiff⟩ := hsound.sectorToCluster_eq sector
    refine ⟨fun cluster => ?_, hsound.sectorToCluster_eq_none_iff sector, fun cause => ?_⟩
    · rw [hfound, Except.ok.injEq, hiff]
    · rw [hfound]
      nofun
  · obtain ⟨found, hfound, hmem⟩ := hsound.exists_badClusters sectors
    refine ⟨found, hfound, hmem, fun recorded bootInfo v backup => ?_⟩
    obtain ⟨start, hmake, hread⟩ :=
      FreshVolume.exists_read_afterRequests hsound recorded bootInfo v backup
    exact ⟨start, hmake, fun requests cluster hc => hread requests cluster ((hmem cluster).1 hc).1⟩

/-- A FAT16 volume of 64 MiB has its first cluster on the sectors 546 and 547 and its last one at the
end of the device. Two sectors of a cluster name it once, and the sector before the data names none. -/
theorem clusters_tile_fat16 :
    ∃ l, compute ⟨512, 131072, ⟨64, 32⟩, 0⟩ { width := some .fat16 } = .ok l ∧
      l.sectorToCluster 545 = .ok none ∧ l.sectorToCluster 546 = .ok (some 2) ∧
      l.sectorToCluster 547 = .ok (some 2) ∧ l.sectorToCluster 548 = .ok (some 3) ∧
      l.sectorToCluster 131071 = .ok (some 65264) ∧ l.sectorToCluster 131072 = .ok none ∧
      ∃ found, badClusters l (SectorSet.ofList [545, 546, 547]) = .ok found ∧
        2 ∈ found ∧ 3 ∉ found := by
  have hl : compute ⟨512, 131072, ⟨64, 32⟩, 0⟩ { width := some .fat16 } =
      .ok ⟨.fat16, 512, 2, 65263, 256, 2, 2, 512, 32, 546, 131072, true⟩ :=
    eq_ok_of_toOption (by decide)
  obtain ⟨-, -, hsector, -, hbad⟩ := clusters_tile _ _ _ hl
  have hholds : ∀ {cluster sector},
      reservedEntries ≤ cluster ∧ cluster < 65263 + reservedEntries →
      Holds ⟨.fat16, 512, 2, 65263, 256, 2, 2, 512, 32, 546, 131072, true⟩ cluster sector →
      sectorToCluster ⟨.fat16, 512, 2, 65263, 256, 2, 2, 512, 32, 546, 131072, true⟩ sector =
        .ok (some cluster) := fun hc h => ((hsector _).1 _).2 ⟨mem_clusters_iff.2 hc, h⟩
  obtain ⟨found, hfound, hmem, -⟩ := hbad (SectorSet.ofList [545, 546, 547])
  refine ⟨_, hl, (hsector _).2.1.2 (by decide), hholds (by decide) (by decide),
    hholds (by decide) (by decide), hholds (by decide) (by decide),
    hholds (by decide) (by decide), (hsector _).2.1.2 (by decide), found, hfound, ?_, fun hn => ?_⟩
  · exact (hmem 2).2 ⟨mem_clusters_iff.2 (by decide), 546, SectorSet.mem_ofList.2 (by decide),
      by decide⟩
  · obtain ⟨-, sector, hs, hlow, -⟩ := (hmem 3).1 hn
    have hle : ∀ sector ∈ [545, 546, 547], sector ≤ 547 := by decide
    exact absurd (hlow.trans (hle sector (SectorSet.mem_ofList.1 hs))) (by decide)

end Layout

end FatVolume
