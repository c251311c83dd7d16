import Mathlib.Order.Bounds.Defs
import Mathlib.Order.Interval.Finset.Nat
import FatVolume.Proofs.Guard
import FatVolume.Proofs.Layout.Clusters
import FatVolume.Table

/-!
# Tables with bad clusters

Looking for a free cluster and counting the free ones are told here by the set of the clusters whose
entry has some value (`clustersWith`), for any table and not only for that of a fresh volume. The
table of a fresh volume is known from its bad clusters and the cluster of its root directory
(`withDefects`), and so is what marking a cluster bad makes of it.
-/

namespace FatVolume

/-- Members of a list from an index on are counted by their indices. -/
theorem countP_drop_eq_card {α : Type} (list : List α) (first : Nat) (property : α → Bool) :
    (list.drop first).countP property =
      ((Finset.Ico first list.length).filter fun i => (list[i]?).any property = true).card := by
  have hdrop : (list.drop first).map some =
      (List.range' first (list.length - first)).map (list[·]?) := by
    refine List.ext_getElem (by simp) fun i hi _ => ?_
    rw [List.length_map, List.length_drop] at hi
    rw [List.getElem_map, List.getElem_map, List.getElem_drop, List.getElem_range', Nat.one_mul,
      List.getElem?_eq_getElem (by omega)]
  have hset : (Finset.Ico first list.length).filter (fun i => (list[i]?).any property = true) =
      ((List.range' first (list.length - first)).filter
        fun i => (list[i]?).any property).toFinset := by
    ext i
    rw [Finset.mem_filter, Finset.mem_Ico, List.mem_toFinset, List.mem_filter, List.mem_range'_1]
    refine and_congr_left fun _ => ?_
    omega
  calc (list.drop first).countP property
      = ((list.drop first).map some).countP (Option.any property) := by
        rw [List.countP_map]
        rfl
    _ = (List.range' first (list.length - first)).countP
          fun i => (list[i]?).any property := by
        rw [hdrop, List.countP_map]
        rfl
    _ = _ := by
        rw [hset, List.toFinset_card_of_nodup ((List.nodup_range' 1).filter _),
          List.countP_eq_length_filter]

/-- A number is its own value just if it does not exceed the mask. -/
theorem Width.value_eq_self_iff (w : Width) {n : Nat} : w.value n = n ↔ n ≤ w.mask := by
  have hpos := Nat.two_pow_pos w.valueBits
  unfold Width.value Width.mask
  rw [Nat.mod_eq_iff_lt (by omega)]
  omega

theorem Width.isBad_iff_of_le (w : Width) {n : Nat} (h : n ≤ w.mask) :
    w.isBad n = true ↔ n = w.badMarker := by
  unfold Width.isBad
  rw [w.value_eq_self_iff.2 h, decide_eq_true_eq]

namespace Table

/-- The clusters of a table whose entry has a value. -/
def clustersWith (t : Table) (value : Nat) : Finset Nat :=
  (Finset.Ico reservedEntries t.entryCount).filter fun c => t.entries[c]? = some value

variable {t : Table} {c start value : Nat}

theorem mem_clustersWith :
    c ∈ t.clustersWith value ↔ reservedEntries ≤ c ∧ t.entries[c]? = some value := by
  unfold clustersWith entryCount
  rw [Finset.mem_filter, Finset.mem_Ico]
  constructor
  · rintro ⟨⟨hle, -⟩, hvalue⟩
    exact ⟨hle, hvalue⟩
  · rintro ⟨hle, hvalue⟩
    exact ⟨⟨hle, (Array.getElem?_eq_some_iff.1 hvalue).1⟩, hvalue⟩

theorem isFree_iff : t.isFree c = true ↔ c ∈ t.clustersWith 0 := by
  unfold isFree
  rw [mem_clustersWith, Bool.and_eq_true, decide_eq_true_eq, decide_eq_true_eq]

/-- The clusters whose entry has a property are counted along the entries. -/
theorem countP_entries {property : Nat → Bool} {value : Nat}
    (h : ∀ c entry : Nat, t.entries[c]? = some entry → (property entry = true ↔ entry = value)) :
    (t.entries.toList.drop reservedEntries).countP property = (t.clustersWith value).card := by
  rw [countP_drop_eq_card, Array.length_toList]
  refine congrArg Finset.card (Finset.filter_congr fun c _ => ?_)
  rw [Array.getElem?_toList]
  cases hentry : t.entries[c]? with
  | none => simp
  | some entry => rw [Option.any_some, h c entry hentry, Option.some.injEq]

theorem freeClusters_eq (t : Table) : t.freeClusters = (t.clustersWith 0).card := by
  unfold freeClusters
  rw [List.count_eq_countP]
  exact countP_entries fun c entry _ => beq_iff_eq

/-- The first free cluster from a number on is the least one. -/
theorem firstFree_eq_some_iff :
    t.firstFree start = some c ↔ IsLeast {c | c ∈ t.clustersWith 0 ∧ start ≤ c} c := by
  have hrange : ∀ d, d ∈ t.clustersWith 0 → reservedEntries ≤ d ∧ d < t.entryCount := fun d hd =>
    Finset.mem_Ico.1 (Finset.mem_filter.1 hd).1
  unfold firstFree
  dsimp only
  rw [List.find?_range'_eq_some, List.mem_range'_1, isFree_iff]
  constructor
  · rintro ⟨hfree, ⟨hle, -⟩, hleast⟩
    refine ⟨⟨hfree, by omega⟩, fun d ⟨hd, hs⟩ => ?_⟩
    by_contra hdc
    have hno := hleast d (max_le hs (hrange d hd).1) (by omega)
    rw [isFree_iff.2 hd] at hno
    cases hno
  · rintro ⟨⟨hfree, hs⟩, hleast⟩
    obtain ⟨hle, hlt⟩ := hrange c hfree
    refine ⟨hfree, ⟨by omega, by omega⟩, fun d hd hdc => ?_⟩
    cases hdfree : t.isFree d with
    | false => rfl
    | true =>
      have hcd := hleast ⟨isFree_iff.1 hdfree, (le_max_left _ _).trans hd⟩
      omega

/-- There is no first free cluster just if all free ones have lower numbers. -/
theorem firstFree_eq_none_iff :
    t.firstFree start = none ↔ ∀ c ∈ t.clustersWith 0, c < start := by
  unfold firstFree
  dsimp only
  rw [List.find?_range'_eq_none]
  constructor
  · intro hnone c hc
    obtain ⟨hle, hlt⟩ := Finset.mem_Ico.1 (Finset.mem_filter.1 hc).1
    by_contra hs
    have hno := hnone c (by omega) (by omega)
    rw [isFree_iff.2 hc] at hno
    cases hno
  · intro hnone c hle hlt
    cases hfree : t.isFree c with
    | false => rfl
    | true =>
      have hs := hnone c (isFree_iff.1 hfree)
      omega

end Table

namespace Width

variable (w : Width)

/-- A marker for the end of a chain is itself a value of the width. -/
theorem value_endMarker : w.value w.endMarker = w.endMarker := by cases w <;> decide

theorem value_mask : w.value w.mask = w.mask := by cases w <;> decide

/-- The media descriptor stays within the mask. -/
theorem value_media (media : UInt8) :
    w.value (w.mask - 255 + media.toNat) = w.mask - 255 + media.toNat := by
  have hlt := media.toNat_lt
  cases w <;> simp only [value, mask, valueBits] <;> omega

/-- The first entry of a table is not zero. -/
theorem media_ne_zero (media : UInt8) : 0 ≠ w.mask - 255 + media.toNat := by
  cases w <;> simp only [mask, valueBits] <;> omega

theorem isBad_badMarker : w.isBad w.badMarker = true := by cases w <;> decide

theorem isBad_endMarker : w.isBad w.endMarker = false := by cases w <;> decide

theorem isBad_zero : w.isBad 0 = false := by cases w <;> decide

theorem badMarker_lt_endMarker : w.badMarker < w.endMarker := by cases w <;> decide

theorem badMarker_pos : 0 < w.badMarker := by cases w <;> decide

theorem mask_pos : 0 < w.mask := by cases w <;> decide

end Width

namespace Table

/-- An entry of the table of a fresh volume with bad clusters, in which one cluster may be that of
the root directory. -/
def freshEntry (w : Width) (media : UInt8) (bad : Finset Nat) (root : Option Nat) (i : Nat) : Nat :=
  if i = 0 then w.mask - 255 + media.toNat
  else if i = 1 then w.mask
  else if i ∈ bad then w.badMarker
  else if root = some i then w.endMarker
  else 0

/-- The table of a fresh volume with bad clusters, in which one cluster may be that of the root
directory. -/
def withDefects (l : Layout) (media : UInt8) (bad : Finset Nat) (root : Option Nat) : Table where
  width := l.width
  entries := (Array.range (l.clusterCount + reservedEntries)).map
    (freshEntry l.width media bad root)
  badClusters := bad.card
  sealed := true

/-- The free clusters of a volume. -/
def free (l : Layout) (bad : Finset Nat) (root : Option Nat) : Finset Nat :=
  l.clusters.filter fun c => c ∉ bad ∧ root ≠ some c

variable {l : Layout} {media : UInt8} {bad : Finset Nat} {root : Option Nat} {c : Nat}

/-- A free cluster is one of the volume, not bad and not that of the root directory. -/
theorem mem_free_iff : c ∈ free l bad root ↔ c ∈ l.clusters ∧ c ∉ bad ∧ root ≠ some c :=
  Finset.mem_filter

/-- The entry of a bad cluster. -/
theorem freshEntry_of_mem (w : Width) (hc : reservedEntries ≤ c) (h : c ∈ bad) :
    freshEntry w media bad root c = w.badMarker := by
  simp only [reservedEntries] at hc
  unfold freshEntry
  rw [if_neg (by omega), if_neg (by omega), if_pos h]

theorem freshEntry_root (w : Width) (hc : reservedEntries ≤ c) (h : c ∉ bad) :
    freshEntry w media bad (some c) c = w.endMarker := by
  simp only [reservedEntries] at hc
  unfold freshEntry
  rw [if_neg (by omega), if_neg (by omega), if_neg h, if_pos rfl]

theorem freshEntry_free (w : Width) (hc : reservedEntries ≤ c) (h : c ∉ bad) (hr : root ≠ some c) :
    freshEntry w media bad root c = 0 := by
  simp only [reservedEntries] at hc
  unfold freshEntry
  rw [if_neg (by omega), if_neg (by omega), if_neg h, if_neg hr]

/-- The entry of a cluster is zero just if the cluster is free. -/
theorem freshEntry_eq_zero_iff (w : Width) (hc : reservedEntries ≤ c) :
    freshEntry w media bad root c = 0 ↔ c ∉ bad ∧ root ≠ some c := by
  have hbad := w.badMarker_pos
  have hend := w.badMarker_lt_endMarker
  by_cases hb : c ∈ bad
  · rw [freshEntry_of_mem w hc hb]
    exact iff_of_false (by omega) fun hn => hn.1 hb
  · by_cases hr : root = some c
    · subst hr
      rw [freshEntry_root w hc hb]
      exact iff_of_false (by omega) fun hn => hn.2 rfl
    · rw [freshEntry_free w hc hb hr]
      exact iff_of_true rfl ⟨hb, hr⟩

/-- The width marks the entry of a cluster bad just if the cluster is bad. -/
theorem isBad_freshEntry (w : Width) (hc : reservedEntries ≤ c) :
    w.isBad (freshEntry w media bad root c) = decide (c ∈ bad) := by
  by_cases hb : c ∈ bad
  · rw [freshEntry_of_mem w hc hb, w.isBad_badMarker, decide_eq_true hb]
  · rw [decide_eq_false hb]
    by_cases hr : root = some c
    · subst hr
      rw [freshEntry_root w hc hb, w.isBad_endMarker]
    · rw [freshEntry_free w hc hb hr, w.isBad_zero]

/-- The entries of a table with bad clusters. -/
theorem getElem?_withDefects (i : Nat) :
    (withDefects l media bad root).entries[i]? =
      if i < l.clusterCount + reservedEntries then some (freshEntry l.width media bad root i)
      else none := by
  show ((Array.range _).map _)[i]? = _
  rw [Array.getElem?_map, Array.getElem?_range]
  split <;> rfl

/-- The entry of a cluster of a table with bad clusters. -/
theorem getElem?_cluster (hc : c ∈ l.clusters) :
    (withDefects l media bad root).entries[c]? = some (freshEntry l.width media bad root c) := by
  rw [getElem?_withDefects, if_pos (Layout.mem_clusters_iff.1 hc).2]

/-- A table with bad clusters has the entries of all clusters and the reserved ones. -/
@[simp] theorem entryCount_withDefects :
    (withDefects l media bad root).entryCount = l.clusterCount + reservedEntries := by
  show ((Array.range _).map _).size = _
  rw [Array.size_map, Array.size_range]

/-- An entry of a table with bad clusters is set. -/
theorem setIfInBounds_withDefects {bad' : Finset Nat} {root' : Option Nat} {value : Nat}
    (hc : freshEntry l.width media bad' root' c = value)
    (hne : ∀ i, i ≠ c →
      freshEntry l.width media bad' root' i = freshEntry l.width media bad root i) :
    (withDefects l media bad root).entries.setIfInBounds c value =
      (withDefects l media bad' root').entries := by
  refine Array.ext_getElem? fun i => ?_
  rw [Array.getElem?_setIfInBounds, getElem?_withDefects]
  by_cases hi : c = i
  · subst hi
    rw [if_pos rfl, getElem?_withDefects, hc]
    show (if c < (withDefects l media bad root).entryCount then _ else _) = _
    rw [entryCount_withDefects]
  · rw [if_neg hi, getElem?_withDefects, hne i (Ne.symm hi)]

/-- An entry that accepts a number takes its value, and the bad clusters are counted again. -/
theorem mark_eq {t : Table} {index number old value : Nat} (hold : t.entries[index]? = some old)
    (ha : t.accept index number = .ok value) :
    t.mark index number =
      if old = value then .ok (t, false)
      else (do
        let badClusters ← t.recount index old value
        pure ({ t with entries := t.entries.setIfInBounds index value, badClusters }, true)) := by
  obtain ⟨hlt, rfl⟩ := Array.getElem?_eq_some_iff.1 hold
  unfold mark
  rw [dif_pos hlt, ha]
  show (if t.entries[index] = value then _ else _) = _
  split
  · rfl
  · rw [Array.setIfInBounds_def, dif_pos hlt]

/-- A cluster accepts a marker. -/
theorem accept_marker {t : Table} {index number : Nat} (hindex : reservedEntries ≤ index)
    (hvalue : t.width.value number = number) (hmarker : t.width.badMarker ≤ number) :
    t.accept index number = .ok number := by
  unfold accept isEntry
  dsimp only
  rw [hvalue, if_neg fun hn => hn.2 rfl, if_neg (Nat.not_lt.2 hindex), if_pos (by simp [hmarker])]

/-- A cluster that is newly bad is counted. -/
theorem recount_of_newlyBad {t : Table} {index old new : Nat} (hindex : reservedEntries ≤ index)
    (hold : t.width.isBad old = false) (hnew : t.width.isBad new = true) :
    t.recount index old new = within 32 (t.badClusters + 1) := by
  unfold recount
  rw [if_neg (Nat.not_lt.2 hindex), hold, hnew]

/-- A cluster that is no more bad than before leaves the count alone. -/
theorem recount_of_good {t : Table} {index old new : Nat} (hindex : reservedEntries ≤ index)
    (hold : t.width.isBad old = false) (hnew : t.width.isBad new = false) :
    t.recount index old new = .ok t.badClusters := by
  unfold recount
  rw [if_neg (Nat.not_lt.2 hindex), hold, hnew]
  rfl

/-- An empty reserved entry takes a value until the table is sealed. -/
theorem mark_reserved {t : Table} {index number : Nat} (hindex : index < reservedEntries)
    (hold : t.entries[index]? = some 0) (hvalue : t.width.value number = number)
    (hnumber : 0 ≠ number) (hsealed : t.sealed = false) :
    t.mark index number =
      .ok ({ t with entries := t.entries.setIfInBounds index number }, true) := by
  have haccept : t.accept index number = .ok number := by
    unfold accept
    dsimp only
    rw [hvalue, if_neg fun hn => hn.2 rfl, if_pos hindex, hsealed]
    rfl
  have hrecount : t.recount index 0 number = .ok t.badClusters := if_pos hindex
  rw [mark_eq hold haccept, if_neg hnumber, hrecount]
  rfl

/-- Marking a cluster bad adds it to the bad ones, and says whether it was none of them. -/
theorem mark_bad (hcount : l.clusterCount < 2 ^ 28) (hbad : bad ⊆ l.clusters)
    (hc : c ∈ l.clusters) :
    (withDefects l media bad root).mark c l.width.badMarker =
      .ok (withDefects l media (insert c bad) root, decide (c ∉ bad)) := by
  have hle := (Layout.mem_clusters_iff.1 hc).1
  have haccept : (withDefects l media bad root).accept c l.width.badMarker =
      .ok l.width.badMarker := accept_marker hle l.width.value_badMarker le_rfl
  rw [mark_eq (getElem?_cluster hc) haccept]
  by_cases hb : c ∈ bad
  · rw [if_pos (freshEntry_of_mem _ hle hb), Finset.insert_eq_of_mem hb,
      decide_eq_false (not_not.2 hb)]
  · have hne : freshEntry l.width media bad root c ≠ l.width.badMarker := by
      intro he
      have hisBad : l.width.isBad (freshEntry l.width media bad root c) = decide (c ∈ bad) :=
        isBad_freshEntry l.width hle
      rw [he, l.width.isBad_badMarker] at hisBad
      exact hb (of_decide_eq_true hisBad.symm)
    have hcard := Finset.card_le_card hbad
    rw [Layout.card_clusters] at hcard
    have hrecount : (withDefects l media bad root).recount c
        (freshEntry l.width media bad root c) l.width.badMarker = .ok (insert c bad).card := by
      have hgood : l.width.isBad (freshEntry l.width media bad root c) = false :=
        (isBad_freshEntry _ hle).trans (decide_eq_false hb)
      rw [recount_of_newlyBad hle hgood l.width.isBad_badMarker, Finset.card_insert_of_notMem hb]
      exact within_of_lt (show bad.card + 1 < 2 ^ 32 by omega)
    rw [if_neg hne, hrecount, decide_eq_true hb,
      setIfInBounds_withDefects (freshEntry_of_mem _ hle (Finset.mem_insert_self c bad))
        fun i hi => ?_]
    · rfl
    · simp only [freshEntry, Finset.mem_insert, or_iff_right hi]

/-- The end of a chain on a good cluster makes it that of the root directory, if the one before is
bad. -/
theorem mark_root (media : UInt8) (hroot : ∀ r, root = some r → r ∈ bad) (hc : c ∈ l.clusters)
    (hb : c ∉ bad) :
    (withDefects l media bad root).mark c l.width.endMarker =
      .ok (withDefects l media bad (some c), true) := by
  have hle := (Layout.mem_clusters_iff.1 hc).1
  have hmarker := l.width.badMarker_lt_endMarker
  have haccept : (withDefects l media bad root).accept c l.width.endMarker =
      .ok l.width.endMarker := accept_marker hle l.width.value_endMarker hmarker.le
  have hold : freshEntry l.width media bad root c = 0 :=
    freshEntry_free _ hle hb fun hr => hb (hroot c hr)
  have hrecount : (withDefects l media bad root).recount c 0 l.width.endMarker =
      .ok bad.card := recount_of_good hle l.width.isBad_zero l.width.isBad_endMarker
  rw [mark_eq (getElem?_cluster hc) haccept, hold, if_neg (by omega), hrecount,
    setIfInBounds_withDefects (freshEntry_root _ hle hb) fun i hi => ?_]
  · rfl
  · unfold freshEntry
    by_cases hib : i ∈ bad
    · rw [if_pos hib, if_pos hib]
    · rw [if_neg hib, if_neg hib, if_neg fun he => hi (Option.some.inj he).symm,
        if_neg fun he => hib (hroot i he)]

/-- The fresh table has no bad clusters. Only its two reserved entries were marked. -/
theorem fresh_eq (l : Layout) (media : UInt8) :
    fresh l.width (l.clusterCount + reservedEntries) media =
      .ok (withDefects l media ∅ none) := by
  have hzero : ∀ i, i < l.clusterCount + 2 →
      (blank l.width (l.clusterCount + 2)).entries[i]? = some 0 := fun i hi => by
    show (Array.replicate _ 0)[i]? = _
    rw [Array.getElem?_replicate, if_pos hi]
  unfold fresh reservedEntries
  rw [mark_reserved (by decide) (hzero 0 (by omega)) (l.width.value_media media)
    (l.width.media_ne_zero media) rfl, ok_bind]
  dsimp only
  rw [mark_reserved (by decide) (by
    show ((blank _ _).entries.setIfInBounds _ _)[1]? = _
    rw [Array.getElem?_setIfInBounds, if_neg (by decide), hzero 1 (by omega)]) l.width.value_mask
    l.width.mask_pos.ne rfl, ok_bind]
  refine congrArg Except.ok ?_
  unfold sealReserved withDefects
  dsimp only
  congr 1
  refine Array.ext_getElem? fun i => ?_
  show (((Array.replicate _ 0).setIfInBounds _ _).setIfInBounds _ _)[i]? =
    ((Array.range (l.clusterCount + 2)).map _)[i]?
  rw [Array.getElem?_setIfInBounds, Array.getElem?_setIfInBounds, Array.getElem?_map,
    Array.getElem?_range, Array.getElem?_replicate, Array.size_setIfInBounds,
    Array.size_replicate]
  unfold freshEntry
  by_cases hone : 1 = i
  · subst hone
    rw [if_pos rfl, if_pos (by omega), if_pos (by omega), Option.map_some]
    rfl
  · by_cases hzero : 0 = i
    · subst hzero
      rw [if_neg hone, if_pos rfl, if_pos (by omega), if_pos (by omega), Option.map_some]
      rfl
    · rw [if_neg hone, if_neg hzero]
      by_cases hi : i < l.clusterCount + 2
      · rw [if_pos hi, if_pos hi, Option.map_some, if_neg (Ne.symm hzero), if_neg (Ne.symm hone)]
        rfl
      · rw [if_neg hi, if_neg hi, Option.map_none]

/-- A cluster of a table with bad clusters is marked bad just if it is one of them. -/
theorem isBad_withDefects (hc : c ∈ l.clusters) :
    (withDefects l media bad root).isBad c = decide (c ∈ bad) := by
  have hle := (Layout.mem_clusters_iff.1 hc).1
  unfold isBad
  rw [getElem?_cluster hc, decide_eq_true hle, Bool.true_and, Option.any_some]
  exact isBad_freshEntry _ hle

/-- The free clusters of a table with bad clusters are those that its entries say. -/
theorem clustersWith_zero :
    (withDefects l media bad root).clustersWith 0 = free l bad root := by
  ext c
  rw [mem_clustersWith, mem_free_iff, getElem?_withDefects, Layout.mem_clusters_iff, and_assoc]
  refine and_congr_right fun hle => ?_
  by_cases hlt : c < l.clusterCount + reservedEntries
  · rw [if_pos hlt, Option.some.injEq, freshEntry_eq_zero_iff _ hle, and_iff_right hlt]
  · rw [if_neg hlt]
    exact iff_of_false nofun fun hn => hlt hn.1

/-- The clusters that are marked bad are the bad ones. -/
theorem clustersWith_badMarker (hbad : bad ⊆ l.clusters) :
    (withDefects l media bad root).clustersWith l.width.badMarker = bad := by
  ext c
  rw [mem_clustersWith]
  constructor
  · rintro ⟨hle, hentry⟩
    rw [getElem?_withDefects] at hentry
    split at hentry
    · have hmarked : l.width.isBad (freshEntry l.width media bad root c) = decide (c ∈ bad) :=
        isBad_freshEntry _ hle
      rw [Option.some.inj hentry, l.width.isBad_badMarker] at hmarked
      exact of_decide_eq_true hmarked.symm
    · cases hentry
  · intro hc
    have hle := (Layout.mem_clusters_iff.1 (hbad hc)).1
    rw [getElem?_cluster (hbad hc), freshEntry_of_mem _ hle hc]
    exact ⟨hle, rfl⟩

/-- The free clusters are counted. -/
theorem freeClusters_withDefects :
    (withDefects l media bad root).freeClusters = (free l bad root).card := by
  rw [freeClusters_eq, clustersWith_zero]

/-- No entry of a table with bad clusters exceeds the mask. -/
theorem freshEntry_le_mask (w : Width) (i : Nat) : freshEntry w media bad root i ≤ w.mask := by
  have hlt := media.toNat_lt
  have hlow : 255 ≤ w.mask := by cases w <;> decide
  unfold freshEntry Width.badMarker Width.endMarker
  split
  · omega
  · split
    · omega
    · split
      · omega
      · split <;> omega

/-- The bad clusters are counted. -/
theorem badClusters_withDefects (hbad : bad ⊆ l.clusters) :
    (withDefects l media bad root).badClusters =
      ((withDefects l media bad root).entries.toList.drop reservedEntries).countP
        l.width.isBad := by
  have hentries : ∀ c entry : Nat, (withDefects l media bad root).entries[c]? = some entry →
      (l.width.isBad entry = true ↔ entry = l.width.badMarker) := by
    intro c entry hentry
    rw [getElem?_withDefects] at hentry
    split at hentry
    · cases hentry
      exact l.width.isBad_iff_of_le (freshEntry_le_mask _ c)
    · cases hentry
  rw [countP_entries hentries, clustersWith_badMarker hbad]
  rfl

end Table

end FatVolume
