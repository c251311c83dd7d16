import FatVolume.Proofs.Layout.Sound

/-!
# The first cluster size that fits

The search ascends from its first cluster size by doubling and stops at the first size at which a
width fits. `Parameters.WellFormed.search_clusterSizes` and
`Parameters.WellFormed.search_eq_noValidConfiguration_iff` say where it stops and when it finds
nothing. FAT12 and FAT16 never fit side by side (`Candidate.WellFormed.not_fits_fat12`): a FAT12
table is no longer than a FAT16 table for the same space, so it leaves room for too many clusters
where a FAT16 volume has enough of them. The order in which the two are tried therefore decides
nothing (`compute_firstFit`).
-/

namespace FatVolume

namespace Layout.Candidate

variable {c : Candidate} {space : Nat}

/-- The estimates of FAT12 and FAT16 differ by less than their entries do: the clusters of FAT12,
with an entry and a half byte each, take no more bytes than those of FAT16. -/
theorem WellFormed.firstCount_fat12_le (h : c.WellFormed) (space : Nat) :
    3 * c.firstCount .fat12 space ≤ 4 * c.firstCount .fat16 space + 2 := by
  have hupper := c.firstCount_mul_le .fat12 space
  have hlower := h.sized.lt_firstCount_mul .fat16 space
  simp only [Width.entryHalves] at hupper hlower
  by_contra hn
  have hmul := Nat.mul_le_mul_right
    (2 * (c.clusterSectors * c.sectorSize) + c.tableCount * 3)
    (show 4 * c.firstCount .fat16 space + 3 ≤ 3 * c.firstCount .fat12 space by omega)
  have hrest := Nat.zero_le (c.firstCount .fat16 space * (c.clusterSectors * c.sectorSize))
  linarith

/-- A FAT12 table is no longer than a FAT16 table for the same space. -/
theorem WellFormed.tableLength_fat12_le (h : c.WellFormed) (space : Nat) :
    c.tableLength .fat12 space ≤ c.tableLength .fat16 space := by
  have hfirst := h.firstCount_fat12_le space
  refine h.sized.area_mono ((gc_mul_ceilDiv h.sized.sectorSize_pos).monotone_l ?_)
  simp only [Width.tableBytes, reservedEntries]
  omega

/-- FAT12 and FAT16 never both fit. -/
theorem WellFormed.not_fits_fat12 (h : c.WellFormed) (h16 : c.Fits .fat16 space) :
    ¬c.Fits .fat12 space := by
  rintro ⟨-, -, hmost⟩
  have hlength := Nat.mul_le_mul_left c.tableCount (h.tableLength_fat12_le space)
  have hcount : c.count .fat16 space ≤ c.count .fat12 space :=
    Nat.div_le_div_right (Nat.sub_le_sub_left hlength space)
  have hmin : 4087 ≤ c.count .fat16 space := h16.2.1
  have hmax : c.count .fat12 space ≤ 4084 := hmost.trans (Nat.min_le_right _ _)
  omega

end Layout.Candidate

namespace Layout

/-- The widths that options admit on a device: the one asked for, otherwise FAT32 alone from 512 MiB
on, and the other two below. -/
def Options.Admits (o : Options) (g : Geometry) (w : Width) : Prop :=
  match o.width with
  | some asked => w = asked
  | none => w = .fat32 ↔ fat32Threshold ≤ g.totalSectors.toNat * g.sectorSize.toNat

/-- The cluster size at which the search starts: the one asked for, else the hint, else the customary
one of FAT32 if that is the width, else one sector. -/
def Options.StartsAt (o : Options) (g : Geometry) (start : Nat) : Prop :=
  match o.clusterSectors <|> o.clusterHint with
  | some n => start = n.toNat
  | none =>
    (o.Admits g .fat32 → fat32ClusterHint (g.totalSectors.toNat * g.sectorSize.toNat)
      g.sectorSize.toNat = .ok start) ∧
    (¬o.Admits g .fat32 → start = 1)

/-- The cluster sizes that are tried: the one asked for alone, otherwise all that follow the first one
by doubling. -/
def Options.Tries (o : Options) (g : Geometry) (clusterSectors : Nat) : Prop :=
  ∃ start, o.StartsAt g start ∧
    if o.clusterSectors.isSome then clusterSectors = start
    else clusterSectors ≤ maxClusterSectors ∧ ∃ k, clusterSectors = start * 2 ^ k

namespace Parameters

variable {p : Parameters} {choice : Choice} {g : Geometry} {o : Options} {clusterSectors : Nat}

/-- The fit of a width at a cluster size. -/
def fitAt (p : Parameters) (clusterSectors : Nat) (w : Width) : Checked (Option Fit) :=
  (p.candidate clusterSectors).fit w (p.space clusterSectors w)

/-- At a cluster size of a volume a width is fitted without a breakdown. -/
theorem WellFormed.fitAt_eq (h : p.WellFormed) (hc : IsClusterSize clusterSectors) (w : Width) :
    p.fitAt clusterSectors w =
      .ok ((p.candidate clusterSectors).fit? w (p.space clusterSectors w)) :=
  (h.candidate hc).fit_eq w (h.space_lt clusterSectors w)

/-- The widths that may be tried are those that the options admit. -/
theorem allows_settled_iff (g : Geometry) (o : Options) (w : Width) :
    (settled g o).allows w = true ↔ o.Admits g w := by
  have hwidth : (settled g o).width =
      fixedWidth (g.totalSectors.toNat * g.sectorSize.toNat) o := rfl
  unfold allows Options.Admits
  rw [hwidth]
  unfold fixedWidth
  cases o.width with
  | some asked => simp [eq_comm]
  | none =>
    by_cases hsize : fat32Threshold ≤ g.totalSectors.toNat * g.sectorSize.toNat
    · simp [hsize, eq_comm]
    · simp [hsize]

/-- FAT32 is fixed just if the options admit it. -/
theorem width_settled_iff (g : Geometry) (o : Options) :
    (settled g o).width = some .fat32 ↔ o.Admits g .fat32 := by
  rw [← allows_settled_iff]
  unfold allows
  cases (settled g o).width with
  | none => simp
  | some fixed => simp

/-- The first cluster size that is tried is the one at which the options let the search start. -/
theorem startsAt_iff (h : (settled g o).WellFormed) (start : Nat) :
    o.StartsAt g start ↔ start = (settled g o).startClusterSectors := by
  have hstart : (settled g o).startClusterSectors =
      startSize (g.totalSectors.toNat * g.sectorSize.toNat) g o
        ((settled g o).width = some .fat32) := rfl
  have hhint := fat32ClusterHint_eq (g.totalSectors.toNat * g.sectorSize.toNat)
    (show 0 < g.sectorSize.toNat from h.sectorSize.1.pos)
  rw [hstart]
  unfold Options.StartsAt startSize
  cases o.clusterSectors <|> o.clusterHint with
  | some n => rfl
  | none =>
    dsimp only
    rw [hhint, Except.ok.injEq]
    by_cases ha : o.Admits g .fat32
    · simp [ha, (width_settled_iff g o).2 ha, eq_comm]
    · simp [ha, mt (width_settled_iff g o).1 ha]

/-- The cluster sizes that are tried ascend. -/
theorem WellFormed.pairwise_clusterSizes (h : p.WellFormed) :
    p.clusterSizes.Pairwise (· < ·) := by
  unfold clusterSizes
  split
  · exact List.pairwise_singleton _ _
  · refine List.Pairwise.filter _ (List.pairwise_map.2 (List.pairwise_lt_range.imp ?_))
    intro j k hjk
    exact Nat.mul_lt_mul_of_pos_left (Nat.pow_lt_pow_right (by decide) hjk)
      h.startClusterSectors.1.pos

/-- The cluster sizes that are tried are those that the options let the search try. -/
theorem mem_clusterSizes_iff (h : (settled g o).WellFormed) (clusterSectors : Nat) :
    clusterSectors ∈ (settled g o).clusterSizes ↔ o.Tries g clusterSectors := by
  have hforced : (settled g o).forced = o.clusterSectors.isSome := rfl
  unfold clusterSizes Options.Tries
  simp only [startsAt_iff h, exists_eq_left, hforced]
  split
  · exact List.mem_singleton
  · rw [List.mem_filter, List.mem_map, decide_eq_true_eq, and_comm]
    refine and_congr_right fun hle => ⟨?_, ?_⟩
    · rintro ⟨k, -, rfl⟩
      exact ⟨k, rfl⟩
    · rintro ⟨k, rfl⟩
      refine ⟨k, List.mem_range.2 ?_, rfl⟩
      have hpos := h.startClusterSectors.1.pos
      have hpow : 2 ^ k ≤ 2 ^ 7 := (Nat.le_mul_of_pos_left _ hpos).trans hle
      have := (Nat.pow_le_pow_iff_right (by decide : 1 < 2)).1 hpow
      omega

/-- A cluster size is passed over just if the device has room at it and no width that the options
admit fits. -/
theorem passes_iff (h : (settled g o).WellFormed) (hc : IsClusterSize clusterSectors) :
    (settled g o).Passes clusterSectors ↔ (settled g o).HasRoom clusterSectors ∧
      ∀ w, o.Admits g w → (settled g o).fitAt clusterSectors w = .ok none := by
  unfold Passes
  simp only [choice?_eq_none_iff, trial?_eq_none_iff, allows_settled_iff, h.fitAt_eq hc,
    Except.ok.injEq]

/-- FAT12 and FAT16 never both fit at a cluster size. -/
theorem WellFormed.fit?_fat16_or_fat12 (h : p.WellFormed) (hc : IsClusterSize clusterSectors) :
    (p.candidate clusterSectors).fit? .fat16 (p.space clusterSectors .fat16) = none ∨
      (p.candidate clusterSectors).fit? .fat12 (p.space clusterSectors .fat12) = none := by
  rw [Candidate.fit?_eq_none_iff, Candidate.fit?_eq_none_iff, ← not_and_or]
  rintro ⟨h16, h12⟩
  exact (h.candidate hc).not_fits_fat12 h16 h12

/-- Only FAT12 and FAT16 may be tried side by side. -/
theorem eq_of_allows_of_ne {v w : Width} (hv : p.allows v = true) (hw : p.allows w = true)
    (hne : w ≠ v) : v = .fat12 ∧ w = .fat16 ∨ v = .fat16 ∧ w = .fat12 := by
  rcases width_eq_of_allows hv with hp | ⟨hp, hv⟩
  · rcases width_eq_of_allows hw with hq | ⟨hq, -⟩
    · exact absurd (Option.some.inj (hq.symm.trans hp)) hne
    · exact absurd (hp.symm.trans hq) (Option.some_ne_none v)
  · rcases width_eq_of_allows hw with hq | ⟨-, hw⟩
    · exact absurd (hq.symm.trans hp) (Option.some_ne_none w)
    · cases v <;> cases w <;> simp_all

/-- Where a width has been found it is the only one of those that may be tried that fits. -/
theorem Found.fit?_eq (hf : p.Found choice) (h : p.WellFormed) {w : Width}
    (hw : p.allows w = true) :
    (p.candidate choice.candidate.clusterSectors).fit? w
        (p.space choice.candidate.clusterSectors w) =
      if w = choice.width then some choice.fit else none := by
  have hfit := hf.fit_eq
  rw [hf.candidate_eq] at hfit
  by_cases heq : w = choice.width
  · rw [if_pos heq, heq]
    exact hfit
  · have hor := h.fit?_fat16_or_fat12 hf.clusterSectors
    rw [if_neg heq]
    rcases eq_of_allows_of_ne hf.allowed hw heq with ⟨hv, rfl⟩ | ⟨hv, rfl⟩
    · rw [hv] at hfit
      exact hor.resolve_right fun hnone => Option.some_ne_none _ (hfit.symm.trans hnone)
    · rw [hv] at hfit
      exact hor.resolve_left fun hnone => Option.some_ne_none _ (hfit.symm.trans hnone)

/-- The search ends at the least cluster size at which it does not go on. -/
theorem WellFormed.search_clusterSizes (h : p.WellFormed)
    (hs : p.search p.clusterSizes = .ok choice) :
    choice.candidate.clusterSectors ∈ p.clusterSizes ∧
      ∀ n ∈ p.clusterSizes, n < choice.candidate.clusterSectors → p.Passes n := by
  obtain ⟨passed, n, rest, hsizes, hpassed, -, hc⟩ :=
    h.exists_of_search (fun n hn => h.isClusterSize_of_mem hn) hs
  have hpairwise := h.pairwise_clusterSizes
  have hn : choice.candidate.clusterSectors = n :=
    congrArg Candidate.clusterSectors (trial?_of_choice? hc).1
  rw [hsizes, List.pairwise_append, List.pairwise_cons] at hpairwise
  rw [hsizes, hn]
  refine ⟨by simp, fun m hm hlt => ?_⟩
  rcases List.mem_append.1 hm with hm | hm
  · exact hpassed m hm
  · rcases List.mem_cons.1 hm with rfl | hm
    · exact absurd hlt (lt_irrefl m)
    · exact absurd (hpairwise.2.1.1 m hm) (by omega)

end Parameters

/-- For every device and all options that pass the checks a computed layout has the first cluster size
at which an admitted width fits: no admitted width fits a smaller size that is tried, and at its own
size its width is the only admitted one that fits, with its clusters and its table. FAT12 and FAT16
never fit side by side, so that FAT16 never takes the place of a FAT12 layout. For want of a valid
configuration the device is refused just if it has room at every cluster size that is tried and no
admitted width fits at any. -/
theorem compute_firstFit (g : Geometry) (o : Options) (p : Parameters)
    (h : Parameters.resolve g o = .ok p) :
    (∀ l, compute g o = .ok l →
      o.Tries g l.clusterSectors ∧
      (∀ n, o.Tries g n → n < l.clusterSectors → ∀ w, o.Admits g w → p.fitAt n w = .ok none) ∧
      o.Admits g l.width ∧
      ∀ w, o.Admits g w → p.fitAt l.clusterSectors w =
        .ok (if w = l.width then some ⟨l.clusterCount, l.tableSectors⟩ else none)) ∧
    (∀ n, o.Tries g n → p.fitAt n .fat16 = .ok none ∨ p.fitAt n .fat12 = .ok none) ∧
    ∀ sectors, compute g o = refuse (.noValidConfiguration sectors) ↔
      sectors = g.totalSectors.toNat ∧
        ∀ n, o.Tries g n → p.HasRoom n ∧ ∀ w, o.Admits g w → p.fitAt n w = .ok none := by
  obtain ⟨rfl, hwell⟩ := Parameters.resolve_eq_ok h
  have hcompute : compute g o =
      (Parameters.settled g o).search (Parameters.settled g o).clusterSizes >>=
        (Parameters.settled g o).layoutOf := by
    unfold compute
    rw [h, ok_bind]
  have hsizes := fun n (hn : n ∈ (Parameters.settled g o).clusterSizes) =>
    hwell.isClusterSize_of_mem hn
  have htries := Parameters.mem_clusterSizes_iff hwell
  refine ⟨fun l hl => ?_, fun n hn => ?_, fun sectors => ?_⟩
  · rw [hcompute] at hl
    obtain ⟨choice, hs, hl⟩ := bind_eq_ok_iff.1 hl
    have hf := hwell.found_of_search hsizes hs
    obtain ⟨hmem, hleast⟩ := hwell.search_clusterSizes hs
    cases hwell.eq_layoutFor hf hl
    refine ⟨(htries _).1 hmem, fun n hn hlt => ?_, (Parameters.allows_settled_iff g o _).1 hf.allowed,
      fun w hw => ?_⟩
    · have hn := (htries n).2 hn
      exact ((Parameters.passes_iff hwell (hsizes n hn)).1 (hleast n hn hlt)).2
    · have hfit := hf.fit?_eq hwell ((Parameters.allows_settled_iff g o w).2 hw)
      exact (hwell.fitAt_eq hf.clusterSectors w).trans (congrArg Except.ok hfit)
  · have hc := hsizes n ((htries n).2 hn)
    rw [hwell.fitAt_eq hc, hwell.fitAt_eq hc, Except.ok.injEq, Except.ok.injEq]
    exact hwell.fit?_fat16_or_fat12 hc
  · simp only [← htries]
    rw [← forall₂_congr fun n hn => Parameters.passes_iff hwell (hsizes n hn), hcompute]
    refine Iff.trans ⟨fun hnone => ?_, fun hnone => ?_⟩
      (hwell.search_eq_noValidConfiguration_iff hsizes sectors)
    · rcases bind_eq_error_iff.1 hnone with hs | ⟨choice, hs, hl⟩
      · exact hs
      · exact absurd hl (hwell.layoutOf_ne_noValidConfiguration (hwell.found_of_search hsizes hs) _)
    · rw [hnone, refuse_bind]

/-- A device of 64 MiB becomes FAT16 with clusters of two sectors: with clusters of one sector it has
too many of them for either width. -/
theorem compute_firstFit_fat16 :
    ∃ p l, Parameters.resolve ⟨512, 131072, ⟨64, 32⟩, 0⟩ {} = .ok p ∧
      compute ⟨512, 131072, ⟨64, 32⟩, 0⟩ {} = .ok l ∧ l.width = .fat16 ∧ l.clusterSectors = 2 ∧
      ∀ w, Options.Admits {} ⟨512, 131072, ⟨64, 32⟩, 0⟩ w → p.fitAt 1 w = .ok none := by
  have hp : Parameters.resolve ⟨512, 131072, ⟨64, 32⟩, 0⟩ {} =
      .ok (Parameters.settled ⟨512, 131072, ⟨64, 32⟩, 0⟩ {}) := eq_ok_of_toOption (by decide)
  have hl : compute ⟨512, 131072, ⟨64, 32⟩, 0⟩ {} =
      .ok ⟨.fat16, 512, 2, 65263, 256, 2, 2, 512, 32, 546, 131072, true⟩ :=
    eq_ok_of_toOption (by decide)
  obtain ⟨hok, -, -⟩ := compute_firstFit _ _ _ hp
  obtain ⟨-, hsmaller, -, -⟩ := hok _ hl
  have hone : Options.Tries {} ⟨512, 131072, ⟨64, 32⟩, 0⟩ 1 := by
    refine ⟨1, ⟨fun ha => ?_, fun _ => rfl⟩, by decide, 0, rfl⟩
    exact absurd (ha.1 rfl) (by decide)
  exact ⟨_, _, hp, hl, rfl, rfl, hsmaller 1 hone (by decide)⟩

/-- The customary cluster size of FAT32 does not bind another width that is asked for. On a device of
512 MiB it has 8 sectors, but a FAT16 volume with a large root directory gets clusters of 4, which is
none of the sizes from 8 on. -/
theorem compute_fat16_below_hint :
    ∃ l, compute ⟨512, 1048576, ⟨255, 63⟩, 0⟩ { width := some .fat16, rootEntries := 13107200 } =
        .ok l ∧
      fat32Threshold ≤ 1048576 * 512 ∧ fat32ClusterHint (1048576 * 512) 512 = .ok 8 ∧
      l.clusterSectors = 4 ∧ ¬∃ k, l.clusterSectors = 8 * 2 ^ k := by
  have hl : compute ⟨512, 1048576, ⟨255, 63⟩, 0⟩ { width := some .fat16, rootEntries := 13107200 } =
      .ok ⟨.fat16, 512, 4, 57231, 224, 2, 4, 13107200, 819200, 819652, 1048576, true⟩ :=
    eq_ok_of_toOption (by decide)
  refine ⟨_, hl, by decide, by decide, rfl, ?_⟩
  rintro ⟨k, hk⟩
  have hpos := Nat.two_pow_pos k
  dsimp only at hk
  omega

end Layout

end FatVolume
