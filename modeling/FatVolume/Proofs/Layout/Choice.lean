import FatVolume.Layout.Search
import FatVolume.Proofs.Layout.Resolve
import FatVolume.Proofs.Layout.Trial

/-!
# The choice of a cluster size

With well-formed parameters the search never breaks down: each cluster size is refused for want of
room, passed over, or chosen with a width that fits (`Parameters.tryCluster_eq`). What is chosen is
described by `Parameters.Found`, and `Parameters.layoutOf_eq` says which layout is made of it.
-/

namespace FatVolume.Layout.Parameters

/-- The device has room for the reserved area and the root directory at a cluster size. -/
def HasRoom (p : Parameters) (clusterSectors : Nat) : Prop :=
  (p.candidate clusterSectors).area p.reserved + (p.candidate clusterSectors).area p.rootSectors ≤
    p.totalSectors

instance (p : Parameters) (clusterSectors : Nat) : Decidable (p.HasRoom clusterSectors) :=
  inferInstanceAs (Decidable (_ ≤ _))

/-- The sectors that are left for tables and clusters of a width. -/
def space (p : Parameters) (clusterSectors : Nat) (w : Width) : Nat :=
  let c := p.candidate clusterSectors
  match w with
  | .fat32 => p.totalSectors - c.area p.reserved
  | _ => p.totalSectors - c.area p.reserved - c.area p.rootSectors

/-- The fit of a width that may be tried, in natural numbers. -/
def trial? (p : Parameters) (clusterSectors : Nat) (w : Width) : Option Fit :=
  if p.allows w then (p.candidate clusterSectors).fit? w (p.space clusterSectors w) else none

/-- The width that fits at a cluster size, in natural numbers. -/
def choice? (p : Parameters) (clusterSectors : Nat) : Option Choice :=
  let c := p.candidate clusterSectors
  ((p.trial? clusterSectors .fat16).map (⟨c, .fat16, ·⟩)) <|>
    ((p.trial? clusterSectors .fat12).map (⟨c, .fat12, ·⟩)) <|>
    (p.trial? clusterSectors .fat32).map (⟨c, .fat32, ·⟩)

variable {p : Parameters} {clusterSectors : Nat}

/-- A cluster size of a volume makes a well-formed candidate. -/
theorem WellFormed.candidate (h : p.WellFormed) (hc : IsClusterSize clusterSectors) :
    (p.candidate clusterSectors).WellFormed :=
  ⟨h.sectorSize, hc, h.tableCount⟩

/-- The space of a width is counted in 32 bits. -/
theorem WellFormed.space_lt (h : p.WellFormed) (clusterSectors : Nat) (w : Width) :
    p.space clusterSectors w < 2 ^ 32 := by
  have ht := h.totalSectors_le
  simp only [maxField32] at ht
  cases w <;> simp only [space] <;> omega

/-- The sectors of the root directory fit a word. -/
theorem WellFormed.rootSectors_lt (h : p.WellFormed) : p.rootSectors < 2 ^ 63 := by
  have hle := ceilDiv_le_self (p.rootEntries * directoryEntryBytes) h.sectorSize.1.pos
  have hroot := h.rootEntries_le
  rw [h.rootSectors_eq]
  simp only [maxField32, directoryEntryBytes] at hroot hle ⊢
  omega

/-- A width is tried without a breakdown. -/
theorem WellFormed.tryWidth_eq (h : p.WellFormed) (hc : IsClusterSize clusterSectors) (w : Width) :
    p.tryWidth (p.candidate clusterSectors) w (p.space clusterSectors w) =
      .ok (p.trial? clusterSectors w) := by
  unfold tryWidth trial?
  split
  · exact (h.candidate hc).fit_eq w (h.space_lt clusterSectors w)
  · rfl

/-- A cluster size is tried without a breakdown. -/
theorem WellFormed.tryCluster_eq (h : p.WellFormed) (hc : IsClusterSize clusterSectors) :
    p.tryCluster clusterSectors =
      if p.HasRoom clusterSectors then .ok (p.choice? clusterSectors)
      else refuse .deviceTooSmall := by
  have hcandidate := h.candidate hc
  have hreserved := h.reserved_le
  simp only [maxField16] at hreserved
  unfold tryCluster
  dsimp only
  rw [hcandidate.alignSectors_eq (by omega : p.reserved < 2 ^ 63),
    hcandidate.alignSectors_eq h.rootSectors_lt]
  simp only [liftM_ok, ok_bind]
  by_cases hfirst : p.totalSectors < (p.candidate clusterSectors).area p.reserved
  · rw [if_pos hfirst, if_neg (show ¬p.HasRoom clusterSectors by unfold HasRoom; omega), refuse_bind]
  · rw [if_neg hfirst]
    by_cases hsecond : p.totalSectors - (p.candidate clusterSectors).area p.reserved <
        (p.candidate clusterSectors).area p.rootSectors
    · rw [if_pos hsecond, if_neg (show ¬p.HasRoom clusterSectors by unfold HasRoom; omega),
        refuse_bind]
    · rw [if_neg hsecond, if_pos (show p.HasRoom clusterSectors by unfold HasRoom; omega)]
      have h16 := h.tryWidth_eq hc .fat16
      have h12 := h.tryWidth_eq hc .fat12
      have h32 := h.tryWidth_eq hc .fat32
      simp only [space] at h16 h12 h32
      rw [h16, h12, h32]
      rfl

/-- What is chosen: a cluster size of a volume with a width that fits. -/
structure Found (p : Parameters) (choice : Choice) : Prop where
  /-- The cluster size is one of a volume. -/
  clusterSectors : IsClusterSize choice.candidate.clusterSectors
  /-- The candidate is that of its cluster size. -/
  candidate_eq : choice.candidate = p.candidate choice.candidate.clusterSectors
  /-- The device has room for reserved area and root directory. -/
  room : p.HasRoom choice.candidate.clusterSectors
  /-- The width may be tried. -/
  allowed : p.allows choice.width = true
  /-- The width fits. -/
  fit_eq : choice.candidate.fit? choice.width
    (p.space choice.candidate.clusterSectors choice.width) = some choice.fit

/-- A width that fits is one that may be tried. -/
theorem trial?_eq_some {w : Width} {f : Fit} (h : p.trial? clusterSectors w = some f) :
    p.allows w = true ∧ (p.candidate clusterSectors).fit? w (p.space clusterSectors w) = some f := by
  unfold trial? at h
  split at h
  · exact ⟨‹_›, h⟩
  · cases h

/-- A width has no trial unless it may be tried and fits. -/
theorem trial?_eq_none_iff {w : Width} :
    p.trial? clusterSectors w = none ↔
      (p.allows w = true →
        (p.candidate clusterSectors).fit? w (p.space clusterSectors w) = none) := by
  unfold trial?
  split <;> simp_all

/-- There is no choice just if no width has a trial. -/
theorem choice?_eq_none_iff :
    p.choice? clusterSectors = none ↔ ∀ w, p.trial? clusterSectors w = none := by
  unfold choice?
  constructor
  · intro h
    have hall : p.trial? clusterSectors .fat16 = none ∧ p.trial? clusterSectors .fat12 = none ∧
        p.trial? clusterSectors .fat32 = none := by simpa using h
    intro w
    cases w with
    | fat12 => exact hall.2.1
    | fat16 => exact hall.1
    | fat32 => exact hall.2.2
  · intro h
    rw [h .fat16, h .fat12, h .fat32]
    rfl

/-- What is chosen at a cluster size has its trial there. -/
theorem trial?_of_choice? {choice : Choice} (h : p.choice? clusterSectors = some choice) :
    choice.candidate = p.candidate clusterSectors ∧
      p.trial? clusterSectors choice.width = some choice.fit := by
  unfold choice? at h
  cases h16 : p.trial? clusterSectors .fat16 with
  | some f =>
    rw [h16] at h
    cases h
    exact ⟨rfl, h16⟩
  | none =>
    cases h12 : p.trial? clusterSectors .fat12 with
    | some f =>
      rw [h16, h12] at h
      cases h
      exact ⟨rfl, h12⟩
    | none =>
      cases h32 : p.trial? clusterSectors .fat32 with
      | some f =>
        rw [h16, h12, h32] at h
        cases h
        exact ⟨rfl, h32⟩
      | none =>
        rw [h16, h12, h32] at h
        cases h

/-- What is chosen at a cluster size fits there. -/
theorem found_of_choice? {choice : Choice} (hc : IsClusterSize clusterSectors)
    (hroom : p.HasRoom clusterSectors) (h : p.choice? clusterSectors = some choice) :
    p.Found choice := by
  obtain ⟨candidate, w, f⟩ := choice
  obtain ⟨rfl, ht⟩ := trial?_of_choice? h
  obtain ⟨hallowed, hfit⟩ := trial?_eq_some ht
  exact ⟨hc, rfl, hroom, hallowed, hfit⟩

/-- Every cluster size that is tried is one of a volume. -/
theorem WellFormed.isClusterSize_of_mem (h : p.WellFormed) (hm : clusterSectors ∈ p.clusterSizes) :
    IsClusterSize clusterSectors := by
  unfold clusterSizes at hm
  split at hm
  · rw [List.mem_singleton] at hm
    exact hm ▸ h.startClusterSectors
  · obtain ⟨hmap, hle⟩ := List.mem_filter.1 hm
    obtain ⟨k, -, rfl⟩ := List.mem_map.1 hmap
    obtain ⟨j, hj⟩ := isPowerOfTwo_iff.1 h.startClusterSectors.1
    exact ⟨isPowerOfTwo_iff.2 ⟨j + k, by rw [hj, Nat.pow_add]⟩, by simpa using hle⟩

/-- A cluster size is passed over: the device has room at it, and no width fits. -/
def Passes (p : Parameters) (clusterSectors : Nat) : Prop :=
  p.HasRoom clusterSectors ∧ p.choice? clusterSectors = none

/-- At its first cluster size the search is refused for want of room, ends with a choice, or goes
on. -/
theorem WellFormed.search_cons (h : p.WellFormed) (hc : IsClusterSize clusterSectors)
    (rest : List Nat) :
    p.search (clusterSectors :: rest) =
      if p.HasRoom clusterSectors then (p.choice? clusterSectors).elim (p.search rest) .ok
      else refuse .deviceTooSmall := by
  rw [search, h.tryCluster_eq hc]
  split
  · cases p.choice? clusterSectors <;> rfl
  · rfl

/-- The search ends with the choice at a cluster size before which all are passed over. -/
theorem WellFormed.exists_of_search (h : p.WellFormed) {sizes : List Nat} {choice : Choice}
    (hsizes : ∀ n ∈ sizes, IsClusterSize n) (hs : p.search sizes = .ok choice) :
    ∃ passed n rest, sizes = passed ++ n :: rest ∧ (∀ m ∈ passed, p.Passes m) ∧
      p.HasRoom n ∧ p.choice? n = some choice := by
  induction sizes with
  | nil => cases hs
  | cons n rest ih =>
    obtain ⟨hn, hrest⟩ := List.forall_mem_cons.1 hsizes
    rw [h.search_cons hn] at hs
    split at hs
    · cases hc : p.choice? n with
      | some found =>
        rw [hc] at hs
        cases hs
        exact ⟨[], n, rest, rfl, nofun, ‹_›, hc⟩
      | none =>
        rw [hc] at hs
        obtain ⟨passed, m, after, rfl, hpassed, hm⟩ := ih hrest hs
        exact ⟨n :: passed, m, after, rfl, List.forall_mem_cons.2 ⟨⟨‹_›, hc⟩, hpassed⟩, hm⟩
    · cases hs

/-- The search finds nothing just if all cluster sizes are passed over. -/
theorem WellFormed.search_eq_noValidConfiguration_iff (h : p.WellFormed) {sizes : List Nat}
    (hsizes : ∀ n ∈ sizes, IsClusterSize n) (sectors : Nat) :
    p.search sizes = refuse (.noValidConfiguration sectors) ↔
      sectors = p.totalSectors ∧ ∀ n ∈ sizes, p.Passes n := by
  induction sizes with
  | nil => simp [search, refuse, eq_comm]
  | cons n rest ih =>
    obtain ⟨hn, hrest⟩ := List.forall_mem_cons.1 hsizes
    rw [h.search_cons hn, List.forall_mem_cons]
    by_cases hroom : p.HasRoom n
    · rw [if_pos hroom]
      cases hc : p.choice? n with
      | some found =>
        refine iff_of_false nofun fun hall => ?_
        exact Option.some_ne_none found (hc.symm.trans hall.2.1.2)
      | none =>
        rw [Option.elim_none, ih hrest]
        exact and_congr_right fun _ => (and_iff_right ⟨hroom, hc⟩).symm
    · rw [if_neg hroom]
      exact iff_of_false nofun fun hall => hroom hall.2.1.1

/-- What the search gives has been found at one of the cluster sizes. -/
theorem WellFormed.found_of_search (h : p.WellFormed) {sizes : List Nat} {choice : Choice}
    (hsizes : ∀ n ∈ sizes, IsClusterSize n) (hs : p.search sizes = .ok choice) :
    p.Found choice := by
  obtain ⟨passed, n, rest, rfl, -, hroom, hc⟩ := h.exists_of_search hsizes hs
  exact found_of_choice? (hsizes n (by simp)) hroom hc

/-- The search never breaks down. -/
theorem WellFormed.search_ne_fault (h : p.WellFormed) {sizes : List Nat}
    (hsizes : ∀ n ∈ sizes, IsClusterSize n) (cause : Fault) :
    p.search sizes ≠ .error (.fault cause) := by
  induction sizes with
  | nil => nofun
  | cons n rest ih =>
    obtain ⟨hn, hrest⟩ := List.forall_mem_cons.1 hsizes
    rw [h.search_cons hn]
    split
    · cases p.choice? n with
      | some found => nofun
      | none => exact ih hrest
    · nofun

/-- Sectors and entries of the root directory, in natural numbers. -/
def rootOf (p : Parameters) (choice : Choice) : Nat × Nat :=
  let sectors := choice.candidate.area p.rootSectors
  let entries := sectors * p.sectorSize / directoryEntryBytes
  if choice.width = .fat32 then (0, 0)
  else if p.align ∧ entries ≤ maxField16 then (sectors, entries)
  else (p.rootSectors, p.rootEntries)

/-- The layout of a choice, in natural numbers. -/
def layoutFor (p : Parameters) (choice : Choice) : Layout :=
  let reserved := choice.candidate.area p.reserved
  { width := choice.width
    sectorSize := p.sectorSize
    clusterSectors := choice.candidate.clusterSectors
    clusterCount := choice.fit.clusters
    tableSectors := choice.fit.tableSectors
    tableCount := p.tableCount
    reservedSectors := reserved
    rootEntries := (p.rootOf choice).2
    rootSectors := (p.rootOf choice).1
    dataStart := reserved + p.tableCount * choice.fit.tableSectors + (p.rootOf choice).1
    totalSectors := p.totalSectors
    aligned := p.align }

variable {choice : Choice}

namespace Found

/-- What is chosen is a well-formed candidate. -/
theorem candidate (hf : p.Found choice) (h : p.WellFormed) : choice.candidate.WellFormed :=
  hf.candidate_eq ▸ h.candidate hf.clusterSectors

/-- What is chosen has the copies of the table that are asked for. -/
theorem tableCount_eq (hf : p.Found choice) : choice.candidate.tableCount = p.tableCount := by
  rw [hf.candidate_eq]
  rfl

/-- What is chosen is aligned just if areas are to be aligned. -/
theorem align_eq (hf : p.Found choice) : choice.candidate.align = p.align := by
  rw [hf.candidate_eq]
  rfl

/-- The sizes of what is chosen are those of its candidate. -/
theorem fits (hf : p.Found choice) :
    choice.candidate.Fits choice.width (p.space choice.candidate.clusterSectors choice.width) ∧
    choice.fit.clusters =
      choice.candidate.count choice.width (p.space choice.candidate.clusterSectors choice.width) ∧
    choice.fit.tableSectors = choice.candidate.tableLength choice.width
      (p.space choice.candidate.clusterSectors choice.width) := by
  obtain ⟨hfits, hfit⟩ := Candidate.fit?_eq_some_iff.1 hf.fit_eq
  exact ⟨hfits, congrArg Fit.clusters hfit, congrArg Fit.tableSectors hfit⟩

/-- The root directory has no more sectors than were set apart for it. -/
theorem rootOf_le (hf : p.Found choice) (h : p.WellFormed) :
    choice.candidate.area p.reserved + (p.rootOf choice).1 +
      p.space choice.candidate.clusterSectors choice.width ≤ p.totalSectors := by
  have harea := (hf.candidate h).sized.le_area p.rootSectors
  have hroom := hf.room
  have hcandidate := hf.candidate_eq
  unfold HasRoom at hroom
  rw [← hcandidate] at hroom
  unfold rootOf space
  dsimp only
  rw [← hcandidate]
  cases choice.width with
  | fat32 =>
    rw [if_pos rfl]
    dsimp only
    omega
  | fat12 =>
    rw [if_neg (by decide)]
    split <;> dsimp only <;> omega
  | fat16 =>
    rw [if_neg (by decide)]
    split <;> dsimp only <;> omega

/-- The clusters end on the device. -/
theorem dataEnd_le (hf : p.Found choice) (h : p.WellFormed) :
    (p.layoutFor choice).dataEnd ≤ p.totalSectors := by
  obtain ⟨⟨htables, -, -⟩, hclusters, hlength⟩ := hf.fits
  have hroot := hf.rootOf_le h
  have hcount := Nat.div_mul_le_self (p.space choice.candidate.clusterSectors choice.width -
    choice.candidate.tableCount * choice.fit.tableSectors) choice.candidate.clusterSectors
  unfold Candidate.count at hclusters
  rw [← hlength] at hclusters htables
  rw [← hclusters, hf.tableCount_eq] at hcount
  rw [hf.tableCount_eq] at htables
  simp only [dataEnd, layoutFor]
  omega

end Found

/-- The root directory is found without a breakdown. -/
theorem WellFormed.rootArea_eq (h : p.WellFormed) (hf : p.Found choice) :
    p.rootArea choice = .ok (p.rootOf choice) := by
  have hcandidate := hf.candidate h
  have harea := hcandidate.sized.area_lt p.rootSectors
  have hbytes := ceilDiv_mul_lt (p.rootEntries * directoryEntryBytes) h.sectorSize.1.pos
  have hentries := h.rootEntries_le
  have hsector := h.sectorSize.2.2
  have hcluster : choice.candidate.clusterSectors * p.sectorSize ≤ 2 ^ 22 := by
    have := hcandidate.sized.clusterBytes_le
    rwa [hf.candidate_eq] at this
  have hmul := Nat.mul_le_mul_right p.sectorSize (Nat.le_of_lt harea)
  rw [← h.rootSectors_eq] at hbytes
  rw [Nat.add_mul] at hmul
  simp only [maxField32, directoryEntryBytes] at hentries hbytes
  unfold rootArea rootOf
  by_cases hw : choice.width = .fat32
  · rw [if_pos hw, if_pos hw]
    rfl
  · rw [if_neg hw, if_neg hw]
    by_cases ha : p.align
    · rw [if_pos ha, hcandidate.alignSectors_eq h.rootSectors_lt, ok_bind,
        within_of_lt (by omega), ok_bind]
      by_cases he : choice.candidate.area p.rootSectors * p.sectorSize / directoryEntryBytes ≤
          maxField16
      · rw [if_pos he, if_pos ⟨ha, he⟩]
        rfl
      · rw [if_neg he, if_neg fun hn => he hn.2]
        rfl
    · rw [if_neg ha, if_neg fun hn => ha hn.1]
      rfl

/-- The entries of the root directory are counted in 32 bits. -/
theorem WellFormed.rootOf_snd_lt (h : p.WellFormed) (choice : Choice) :
    (p.rootOf choice).2 < 2 ^ 32 := by
  have hentries := h.rootEntries_le
  unfold rootOf
  dsimp only
  split
  · decide
  · split
    · have he := (‹_ ∧ _› : p.align = true ∧ _).2
      simp only [maxField16] at he
      dsimp only
      omega
    · simp only [maxField32] at hentries
      dsimp only
      omega

/-- What is chosen is refused, for its reserved area or for want of data, or makes a layout of which
nothing is lost in its fields. The words on the way are in range, since the device has fewer than `2
^ 32` sectors. -/
theorem WellFormed.layoutOf_eq (h : p.WellFormed) (hf : p.Found choice) :
    p.layoutOf choice =
      if maxField16 < choice.candidate.area p.reserved then
        refuse (.reservedSectors (choice.candidate.area p.reserved))
      else if p.size / 1024 <
          ceilDiv ((p.layoutFor choice).dataStart * p.sectorSize) 1024 + minDataBlocks then
        refuse .deviceTooSmall
      else .ok (p.layoutFor choice) := by
  have hcandidate := hf.candidate h
  have hend := hf.dataEnd_le h
  have htotal := h.totalSectors_le
  have hreserved := h.reserved_le
  have hle : (p.layoutFor choice).dataStart ≤ (p.layoutFor choice).dataEnd := Nat.le_add_right _ _
  have hstart : (p.layoutFor choice).dataStart = choice.candidate.area p.reserved +
    p.tableCount * choice.fit.tableSectors + (p.rootOf choice).1 := rfl
  have hbytes := Nat.mul_le_mul (hle.trans hend) h.sectorSize.2.2
  simp only [maxField16, maxField32] at htotal hreserved
  unfold layoutOf
  rw [hcandidate.alignSectors_eq (by omega : p.reserved < 2 ^ 63), h.rootArea_eq hf]
  simp only [liftM_ok, ok_bind]
  by_cases hr : maxField16 < choice.candidate.area p.reserved
  · rw [if_pos hr, if_pos hr, low32_of_lt (by omega), refuse_bind]
  · rw [if_neg hr, if_neg hr, ← hstart, within_of_lt (by omega)]
    simp only [liftM_ok, ok_bind]
    rw [within_of_lt (by omega)]
    simp only [liftM_ok, ok_bind]
    rw [roundedQuotient_of_pos (by decide) (by omega)]
    simp only [liftM_ok, ok_bind]
    by_cases hd : p.size / 1024 <
        ceilDiv ((p.layoutFor choice).dataStart * p.sectorSize) 1024 + minDataBlocks
    · rw [if_pos hd, if_pos hd, refuse_bind]
    · rw [if_neg hd, if_neg hd, low32_of_lt (by omega), low32_of_lt (h.rootOf_snd_lt choice),
        low32_of_lt (by omega)]
      show (do
        let dataEnd ← liftM (within 64 (p.layoutFor choice).dataEnd)
        let _ ← liftM (invariant (dataEnd ≤ p.totalSectors))
        pure (p.layoutFor choice) : Guarded LayoutError Layout) = _
      rw [within_of_lt (by omega)]
      simp only [liftM_ok, ok_bind]
      rw [invariant_of hend]
      rfl

/-- What is made of a choice is its layout. -/
theorem WellFormed.eq_layoutFor (h : p.WellFormed) (hf : p.Found choice) {l : Layout}
    (hl : p.layoutOf choice = .ok l) : l = p.layoutFor choice := by
  rw [h.layoutOf_eq hf] at hl
  split at hl
  · cases hl
  · split at hl
    · cases hl
    · exact (Except.ok.inj hl).symm

/-- What is made of a choice is never refused for want of a cluster size. -/
theorem WellFormed.layoutOf_ne_noValidConfiguration (h : p.WellFormed) (hf : p.Found choice)
    (sectors : Nat) : p.layoutOf choice ≠ refuse (.noValidConfiguration sectors) := by
  rw [h.layoutOf_eq hf]
  split
  · nofun
  · split <;> nofun

end FatVolume.Layout.Parameters
