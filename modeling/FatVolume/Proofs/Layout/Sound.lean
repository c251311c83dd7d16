import FatVolume.Proofs.Layout.Choice

/-!
# Computed layouts are sound

A layout that is computed keeps every promise that boot sectors, tables and writers rely on: the
areas follow one another inside the device, the table has an entry for every cluster, and every size
fits the field that stores it. `Layout.Sound` lists the promises; `compute_sound` says that they
hold for every device and all options, and that the computation itself never breaks down.
-/

namespace FatVolume.Layout

/-- What holds of every layout that is computed. -/
structure Sound (l : Layout) : Prop where
  /-- The sector size is a power of two between 512 and 32768. -/
  sectorSize : IsSectorSize l.sectorSize
  /-- The cluster size is a power of two up to 128. -/
  clusterSectors : IsClusterSize l.clusterSectors
  /-- There are one to four copies of the table. -/
  tableCount : IsTableCount l.tableCount
  /-- The width allows so few clusters. -/
  minClusters_le : l.width.minClusters ≤ l.clusterCount
  /-- The width allows so many clusters. -/
  le_maxClusters : l.clusterCount ≤ l.width.maxClusters
  /-- A copy of the table holds the entries of all clusters and the reserved ones. -/
  tableBytes_le : l.width.tableBytes (l.clusterCount + reservedEntries) ≤ l.tableAreaBytes
  /-- A copy of the table has a sector. -/
  tableSectors_pos : 0 < l.tableSectors
  /-- On FAT12 and FAT16 the length of the table fits its field of 16 bits. -/
  tableSectors_le : l.width ≠ .fat32 → l.tableSectors ≤ maxField16
  /-- The boot sector is reserved. -/
  reservedSectors_pos : 0 < l.reservedSectors
  /-- The number of reserved sectors fits its field of 16 bits. -/
  reservedSectors_le : l.reservedSectors ≤ maxField16
  /-- On FAT32 the information sector is reserved as well. -/
  two_le_reservedSectors : l.width = .fat32 → 2 ≤ l.reservedSectors
  /-- The root directory has the sectors of its entries. -/
  rootEntries_le : l.rootEntries * directoryEntryBytes ≤ l.rootSectors * l.sectorSize
  /-- On FAT32 the root directory has no area of its own. -/
  root_eq_zero : l.width = .fat32 → l.rootEntries = 0 ∧ l.rootSectors = 0
  /-- The data follows reserved area, tables and root directory. -/
  dataStart_eq : l.dataStart = l.reservedSectors + l.tableCount * l.tableSectors + l.rootSectors
  /-- The clusters end on the device. -/
  dataEnd_le : l.dataStart + l.clusterCount * l.clusterSectors ≤ l.totalSectors
  /-- The device has 32 KiB from the start of the data on. -/
  data_le : l.dataStart * l.sectorSize + 32 * 1024 ≤ l.totalSectors * l.sectorSize
  /-- The sectors of the device are counted in 32 bits. -/
  totalSectors_le : l.totalSectors ≤ maxField32

namespace Parameters

variable {p : Parameters} {choice : Choice}

/-- The root directory has the sectors of its entries. -/
theorem WellFormed.rootOf_entries_le (h : p.WellFormed) (choice : Choice) :
    (p.rootOf choice).2 * directoryEntryBytes ≤ (p.rootOf choice).1 * p.sectorSize := by
  unfold rootOf
  dsimp only
  split
  · exact Nat.le_of_eq (Nat.zero_mul _) |>.trans (Nat.zero_le _)
  · split
    · exact Nat.div_mul_le_self _ _
    · rw [h.rootSectors_eq, Nat.mul_comm (ceilDiv _ _)]
      exact (gc_mul_ceilDiv h.sectorSize.1.pos).le_u_l _

/-- The table of a choice holds the entries of all clusters. -/
theorem Found.tableBytes_le (hf : p.Found choice) :
    choice.width.tableBytes (choice.fit.clusters + reservedEntries) ≤
      choice.fit.tableSectors * p.sectorSize := by
  obtain ⟨⟨-, hmin, hmost⟩, hclusters, hlength⟩ := hf.fits
  have hsector : choice.candidate.sectorSize = p.sectorSize := by rw [hf.candidate_eq]; rfl
  have hpos := choice.width.minClusters_pos
  have haddressable := hmost.trans (Nat.min_le_left _ _)
  rw [← hclusters, ← hlength, hsector] at haddressable
  rw [← hclusters] at hmin
  exact choice.width.tableBytes_le_iff.2 (by omega)

/-- A width that may be tried is FAT32 only if it is fixed. -/
theorem width_eq_of_allows {w : Width} (h : p.allows w = true) :
    p.width = some w ∨ p.width = none ∧ w ≠ .fat32 := by
  unfold allows at h
  cases hp : p.width with
  | none =>
    rw [hp] at h
    exact Or.inr ⟨rfl, by simpa using h⟩
  | some fixed =>
    rw [hp] at h
    exact Or.inl (congrArg some (by simpa using h))

/-- FAT32 is chosen just if it is fixed. -/
theorem Found.width_eq_fat32_iff (hf : p.Found choice) :
    choice.width = .fat32 ↔ p.width = some .fat32 := by
  rcases width_eq_of_allows hf.allowed with hp | ⟨hp, hn⟩
  · rw [hp, Option.some.injEq]
  · rw [hp]
    exact iff_of_false hn nofun

/-- The layout of a choice is sound unless the choice is refused. The refusal counts in KiB, rounded
up before the data and down for the device. -/
theorem Found.sound (hf : p.Found choice) (h : p.WellFormed)
    (hreserved : choice.candidate.area p.reserved ≤ maxField16)
    (hdata : ceilDiv ((p.layoutFor choice).dataStart * p.sectorSize) 1024 + minDataBlocks ≤
      p.size / 1024) : (p.layoutFor choice).Sound := by
  obtain ⟨⟨htables, hmin, hmost⟩, hclusters, hlength⟩ := hf.fits
  have hsized := (hf.candidate h).sized
  have hle := hsized.le_area p.reserved
  have hmax := hmost.trans (Nat.min_le_right _ _)
  have hpos := hsized.tableLength_pos choice.width
    (p.space choice.candidate.clusterSectors choice.width)
  have hfield := fun hw => hsized.tableLength_le htables hw hmax
  rw [← hclusters] at hmin hmax
  rw [← hlength] at hpos hfield
  exact {
    sectorSize := h.sectorSize
    clusterSectors := hf.clusterSectors
    tableCount := h.tableCount
    minClusters_le := hmin
    le_maxClusters := hmax
    tableBytes_le := hf.tableBytes_le
    tableSectors_pos := hpos
    tableSectors_le := hfield
    reservedSectors_pos := h.reserved_pos.trans_le hle
    reservedSectors_le := hreserved
    two_le_reservedSectors := fun hw => (h.two_le_reserved (hf.width_eq_fat32_iff.1 hw)).trans hle
    rootEntries_le := h.rootOf_entries_le choice
    root_eq_zero := fun hw => by
      have hroot : p.rootOf choice = (0, 0) := if_pos hw
      exact ⟨congrArg Prod.snd hroot, congrArg Prod.fst hroot⟩
    dataStart_eq := rfl
    dataEnd_le := hf.dataEnd_le h
    data_le := by
      have hup := (gc_mul_ceilDiv (show 0 < 1024 by decide)).le_u_l
        ((p.layoutFor choice).dataStart * p.sectorSize)
      have hdown := Nat.div_mul_le_self p.size 1024
      have hsize := h.size_eq
      rw [ceilDiv_eq] at hdata
      simp only [minDataBlocks] at hdata
      show (p.layoutFor choice).dataStart * p.sectorSize + 32 * 1024 ≤
        p.totalSectors * p.sectorSize
      omega
    totalSectors_le := h.totalSectors_le }

end Parameters

/-- What a computed layout comes from. -/
theorem exists_choice_of_compute {g : Geometry} {o : Options} {l : Layout}
    (h : compute g o = .ok l) :
    ∃ choice, (Parameters.settled g o).WellFormed ∧ (Parameters.settled g o).Found choice ∧
      choice.candidate.area (Parameters.settled g o).reserved ≤ maxField16 ∧
      ceilDiv (((Parameters.settled g o).layoutFor choice).dataStart *
        (Parameters.settled g o).sectorSize) 1024 +
          Parameters.minDataBlocks ≤ (Parameters.settled g o).size / 1024 ∧
      l = (Parameters.settled g o).layoutFor choice := by
  obtain ⟨p, hp, h⟩ := bind_eq_ok_iff.1 h
  obtain ⟨choice, hc, h⟩ := bind_eq_ok_iff.1 h
  obtain ⟨rfl, hwell⟩ := Parameters.resolve_eq_ok hp
  have hf := hwell.found_of_search (fun n hn => hwell.isClusterSize_of_mem hn) hc
  rw [hwell.layoutOf_eq hf] at h
  split at h
  · cases h
  · split at h
    · cases h
    · cases h
      exact ⟨choice, hwell, hf, Nat.not_lt.1 ‹_›, Nat.not_lt.1 ‹_›, rfl⟩

/-- A computed layout is sound. -/
theorem sound_of_compute {g : Geometry} {o : Options} {l : Layout} (h : compute g o = .ok l) :
    l.Sound := by
  obtain ⟨choice, hwell, hf, hreserved, hdata, rfl⟩ := exists_choice_of_compute h
  exact hf.sound hwell hreserved hdata

/-- The computation of a layout never breaks down. -/
theorem compute_ne_fault (g : Geometry) (o : Options) (cause : Fault) :
    compute g o ≠ .error (.fault cause) := by
  unfold compute
  cases hp : Parameters.resolve g o with
  | error stop =>
    intro hfault
    cases hfault
    exact Parameters.resolve_ne_fault g o cause hp
  | ok p =>
    obtain ⟨rfl, hwell⟩ := Parameters.resolve_eq_ok hp
    have hsizes := fun n (hn : n ∈ (Parameters.settled g o).clusterSizes) =>
      hwell.isClusterSize_of_mem hn
    rw [ok_bind]
    cases hc : (Parameters.settled g o).search (Parameters.settled g o).clusterSizes with
    | error stop =>
      intro hfault
      cases hfault
      exact hwell.search_ne_fault hsizes cause hc
    | ok choice =>
      rw [ok_bind, hwell.layoutOf_eq (hwell.found_of_search hsizes hc)]
      split
      · nofun
      · split <;> nofun

/-- The width of a computed layout is the one that was asked for. -/
theorem width_of_compute {g : Geometry} {o : Options} {l : Layout} (h : compute g o = .ok l)
    {w : Width} (hw : o.width = some w) : l.width = w := by
  obtain ⟨choice, -, hf, -, -, rfl⟩ := exists_choice_of_compute h
  have hfixed : (Parameters.settled g o).width = some w := by
    show fixedWidth _ o = some w
    unfold fixedWidth
    rw [hw]
  rcases Parameters.width_eq_of_allows hf.allowed with hp | ⟨hp, -⟩
  · exact (Option.some.inj (hp.symm.trans hfixed))
  · rw [hp] at hfixed
    cases hfixed

/-- A computed layout has the sectors of its device. -/
theorem sectors_of_compute {g : Geometry} {o : Options} {l : Layout} (h : compute g o = .ok l) :
    l.sectorSize = g.sectorSize.toNat ∧ l.totalSectors = g.totalSectors.toNat := by
  obtain ⟨choice, -, -, -, -, rfl⟩ := exists_choice_of_compute h
  exact ⟨rfl, rfl⟩

/-- For every device and all options the computation of a layout never breaks down, and a layout
that it gives is one of the device with the width and the copies of the table that were asked for,
and sound. -/
theorem compute_sound (g : Geometry) (o : Options) :
    (∀ cause, compute g o ≠ .error (.fault cause)) ∧
    ∀ l, compute g o = .ok l →
      l.sectorSize = g.sectorSize.toNat ∧ l.totalSectors = g.totalSectors.toNat ∧
      l.tableCount = o.tableCount.toNat ∧ (∀ w, o.width = some w → l.width = w) ∧ l.Sound := by
  refine ⟨compute_ne_fault g o, fun l h => ?_⟩
  have hsound := sound_of_compute h
  have hwidth := fun w => width_of_compute h (w := w)
  obtain ⟨choice, -, -, -, -, rfl⟩ := exists_choice_of_compute h
  exact ⟨rfl, rfl, rfl, hwidth, hsound⟩

/-- A floppy disk of 1440 KiB has FAT12 with clusters of one sector. -/
theorem compute_floppy :
    compute ⟨512, 2880, ⟨2, 18⟩, 0⟩ {} =
      .ok ⟨.fat12, 512, 1, 2829, 9, 2, 1, 512, 32, 51, 2880, false⟩ :=
  eq_ok_of_toOption (by decide)

/-- A hard disk of 586 MiB has FAT32 with clusters of eight sectors. -/
theorem compute_hardDisk :
    compute ⟨512, 1200000, ⟨255, 63⟩, 0⟩ {} =
      .ok ⟨.fat32, 512, 8, 149702, 1176, 2, 32, 0, 0, 2384, 1200000, true⟩ :=
  eq_ok_of_toOption (by decide)

/-- The layout of a floppy disk of 1440 KiB is sound. -/
theorem compute_sound_floppy :
    ∃ l, compute ⟨512, 2880, ⟨2, 18⟩, 0⟩ {} = .ok l ∧
      l = ⟨.fat12, 512, 1, 2829, 9, 2, 1, 512, 32, 51, 2880, false⟩ ∧ l.Sound :=
  ⟨_, compute_floppy, rfl, ((compute_sound _ _).2 _ compute_floppy).2.2.2.2⟩

end FatVolume.Layout
