import FatVolume.Proofs.Table.Edits

/-!
# Bookkeeping of tables

A table is edited one entry at a time, and the number of its bad clusters follows every edit. Whatever
was asked of a table before, its counts are those of its entries, an edit is taken just if its rule
allows it (`Takes`) and sets one entry, and the reserved entries stay once they are sealed
(`KeepsBooks`, `keepsBooks_afterEdits`).

The entry of a cluster can hold the number of the next one. The numbers of a computed layout lie
below all markers, with one exception: a FAT32 volume with as many clusters as the width allows gives
its last one the number that marks bad clusters (`Layout.IsMarker`). Every other link reads as a
link, and leaves no more bad clusters than there were (`link_of_compute`).
-/

namespace FatVolume

namespace Layout

/-- The number of a cluster is the marker of bad ones: that of the last cluster of a FAT32 volume
with as many as the width allows. -/
def IsMarker (l : Layout) (c : Nat) : Prop :=
  l.width = .fat32 ∧ l.clusterCount = l.width.maxClusters ∧ c = l.clusterCount + 1

instance (l : Layout) (c : Nat) : Decidable (l.IsMarker c) := inferInstanceAs (Decidable (_ ∧ _))

variable {l : Layout} {c : Nat}

/-- No cluster has a number above the marker of bad ones. -/
theorem Sound.le_badMarker (h : l.Sound) (hc : c ∈ l.clusters) : c ≤ l.width.badMarker := by
  have hmax := h.le_maxClusters
  have hlt := (mem_clusters_iff.1 hc).2
  simp only [reservedEntries] at hlt
  cases hw : l.width <;>
    · simp only [hw, Width.maxClusters] at hmax
      simp only [Width.badMarker, Width.mask, Width.valueBits]
      omega

/-- The number of a cluster is the marker of bad ones just where FAT32 has all its clusters. -/
theorem Sound.eq_badMarker_iff (h : l.Sound) (hc : c ∈ l.clusters) :
    c = l.width.badMarker ↔ l.IsMarker c := by
  have hmax := h.le_maxClusters
  have hlt := (mem_clusters_iff.1 hc).2
  unfold IsMarker
  simp only [reservedEntries] at hlt
  cases hw : l.width <;>
    · simp only [hw, Width.maxClusters] at hmax
      simp only [Width.badMarker, Width.mask, Width.valueBits, Width.maxClusters, reduceCtorEq,
        false_and, iff_false, true_and]
      omega

/-- The number of a cluster is itself a value of the width. -/
theorem Sound.value_cluster (h : l.Sound) (hc : c ∈ l.clusters) : l.width.value c = c := by
  have hle := h.le_badMarker hc
  have hpos := Nat.two_pow_pos l.width.valueBits
  unfold Width.badMarker Width.mask at hle
  exact Nat.mod_eq_of_lt (by omega)

/-- The number of a cluster reads as bad just if it is the marker. -/
theorem Sound.isBad_cluster (h : l.Sound) (hc : c ∈ l.clusters) :
    l.width.isBad c = decide (l.IsMarker c) := by
  unfold Width.isBad
  rw [h.value_cluster hc]
  exact decide_eq_decide.2 (h.eq_badMarker_iff hc)

/-- The number of a cluster never ends a chain. -/
theorem Sound.isEnd_cluster (h : l.Sound) (hc : c ∈ l.clusters) : l.width.isEnd c = false := by
  unfold Width.isEnd
  rw [h.value_cluster hc]
  exact decide_eq_false
    (Nat.not_le.2 ((h.le_badMarker hc).trans_lt l.width.badMarker_lt_endMarker))

end Layout

namespace Table

variable {t : Table} {l : Layout} {index c : Nat}

/-- The entry of a cluster takes the number of a cluster. -/
theorem accept_link (h : l.Sound) (hwidth : t.width = l.width)
    (hcount : t.entryCount = l.clusterCount + reservedEntries) (hindex : index ∈ l.clusters)
    (hc : c ∈ l.clusters) : t.accept index c = .ok c := by
  obtain ⟨hle, hlt⟩ := Layout.mem_clusters_iff.1 hc
  have hvalue : t.width.value c = c := hwidth ▸ h.value_cluster hc
  have hentry : t.isEntry c = true := by
    unfold isEntry
    rw [hcount, decide_eq_true hle, decide_eq_true hlt, Bool.true_and, Bool.or_true,
      Bool.true_or]
  unfold accept
  dsimp only
  rw [hvalue, if_neg fun hn => hn.2 rfl,
    if_neg (Nat.not_lt.2 (Layout.mem_clusters_iff.1 hindex).1), if_pos hentry]

/-- For every device and all options, a cluster of the computed layout has a number below the marker
of bad ones, unless it is the last one of a FAT32 volume with as many clusters as the width allows,
whose number is the marker. With this exception the number reads neither as bad nor as the end of a
chain. In a table of the width, whatever was asked of it before, a link to the cluster takes the
place of a bad cluster if its entry was one, and adds none; with the exception it adds one. The
table of the volume takes the link at every cluster. -/
theorem link_of_compute (g : Geometry) (o : Layout.Options) (l : Layout)
    (h : Layout.compute g o = .ok l) (c : Nat) (hc : c ∈ l.clusters) :
    (if l.IsMarker c then c = l.width.badMarker else c < l.width.badMarker) ∧
    l.width.isBad c = decide (l.IsMarker c) ∧ l.width.isEnd c = false ∧
    ∀ (entryCount : UInt32) (start : Table), Starts l.width entryCount.toNat start →
      ∀ (edits : List Edit) (index : Nat), let t := start.afterEdits edits
      (∀ after changed, t.mark index c = .ok (after, changed) →
        after.badClusters + (if t.isBad index = true then 1 else 0) =
          t.badClusters + (if reservedEntries ≤ index ∧ l.IsMarker c then 1 else 0)) ∧
      (entryCount.toNat = l.clusterCount + reservedEntries → index ∈ l.clusters →
        ∃ after changed, t.mark index c = .ok (after, changed)) := by
  have hsound := Layout.sound_of_compute h
  have hmarker := hsound.eq_badMarker_iff hc
  refine ⟨?_, hsound.isBad_cluster hc, hsound.isEnd_cluster hc, ?_⟩
  · split
    · exact hmarker.2 ‹_›
    · exact (hsound.le_badMarker hc).lt_of_ne fun he => absurd (hmarker.1 he) ‹_›
  · intro entryCount start hstart edits index
    obtain ⟨hconsistent, hwidth, hcount⟩ :=
      consistent_afterEdits entryCount.toNat_lt hstart edits
    refine ⟨fun after changed hmark => ?_, fun hentries hindex => ?_⟩
    · have hbad := hconsistent.badClusters_mark hmark
      rw [hwidth, hsound.isBad_cluster hc] at hbad
      simpa only [decide_eq_true_eq] using hbad
    · have haccept := accept_link hsound hwidth (hcount.trans hentries) hindex hc
      have hlt : index < (start.afterEdits edits).entries.size := by
        show index < (start.afterEdits edits).entryCount
        rw [hcount, hentries]
        exact (Layout.mem_clusters_iff.1 hindex).2
      exact ⟨_, _, hconsistent.mark_eq (Array.getElem?_eq_getElem hlt) haccept⟩

/-- On a device of 272629782 sectors of 512 bytes a FAT32 volume with clusters of one sector has a
cluster 268435447. Its number reads as the marker of bad clusters, and a link to it makes a bad
cluster of the one that has the link. -/
theorem link_of_compute_marker :
    ∃ l, Layout.compute ⟨512, 272629782, ⟨255, 63⟩, 0⟩
        { width := some .fat32, clusterSectors := some 1 } = .ok l ∧
      268435447 ∈ l.clusters ∧ l.width.isBad 268435447 = true ∧
      ∃ after, (blank .fat32 3).mark 2 268435447 = .ok (after, true) ∧
        (blank .fat32 3).badClusters = 0 ∧ after.badClusters = 1 := by
  have hl : Layout.compute ⟨512, 272629782, ⟨255, 63⟩, 0⟩
      { width := some .fat32, clusterSectors := some 1 } =
        .ok ⟨.fat32, 512, 1, 268435446, 2097152, 2, 32, 0, 0, 4194336, 272629782, true⟩ :=
    eq_ok_of_toOption (by decide)
  have hc : 268435447 ∈ (⟨.fat32, 512, 1, 268435446, 2097152, 2, 32, 0, 0, 4194336, 272629782,
      true⟩ : Layout).clusters := Layout.mem_clusters_iff.2 (by decide)
  obtain ⟨-, hbad, -, hlink⟩ := link_of_compute _ _ _ hl 268435447 hc
  have hmark : (blank .fat32 3).mark 2 268435447 =
      .ok (⟨.fat32, #[0, 0, 268435447], 1, false⟩, true) := eq_ok_of_toOption (by decide)
  exact ⟨_, hl, hc, hbad, _, hmark, rfl, (hlink 3 _ .blank [] 2).1 _ _ hmark⟩

end Table

namespace Table

/-- The rule of an edit: the entry is there, the number fits the width, of which FAT32 leaves out the
bits above its value, a reserved entry is not sealed yet, and a cluster becomes free, is linked to a
cluster of the table, or is marked. -/
structure Takes (t : Table) (index number : Nat) : Prop where
  /-- The table has the entry. -/
  index_lt : index < t.entryCount
  /-- The number fits the width. -/
  number_le : t.width ≠ .fat32 → number ≤ t.width.mask
  /-- A reserved entry is open. -/
  unsealed : index < reservedEntries → t.sealed = false
  /-- A cluster is free, linked or marked afterwards. -/
  value : reservedEntries ≤ index → t.width.value number = 0 ∨
    (reservedEntries ≤ t.width.value number ∧ t.width.value number < t.entryCount) ∨
      t.width.badMarker ≤ t.width.value number

/-- What holds of a table whatever was asked of it before. -/
structure KeepsBooks (t : Table) : Prop where
  /-- Every entry is a value of the width. -/
  entry_le : ∀ i entry : Nat, t.entries[i]? = some entry → entry ≤ t.width.mask
  /-- The bad clusters are counted. -/
  badClusters_eq : t.badClusters = (t.clustersWith t.width.badMarker).card
  /-- The free clusters are counted. -/
  freeClusters_eq : t.freeClusters = (t.clustersWith 0).card
  /-- The first free cluster from a number on is the least one. -/
  firstFree_eq_some : ∀ start c,
    t.firstFree start = some c ↔ IsLeast {c | c ∈ t.clustersWith 0 ∧ start ≤ c} c
  /-- There is none just if all free clusters have lower numbers. -/
  firstFree_eq_none : ∀ start, t.firstFree start = none ↔ ∀ c ∈ t.clustersWith 0, c < start
  /-- An edit that follows the rule sets one entry, and says whether that changed it. -/
  mark_of_takes : ∀ index number, t.Takes index number → ∃ after old : _,
    t.entries[index]? = some old ∧
    t.mark index number = .ok (after, decide (old ≠ t.width.value number)) ∧
    t.edit (.mark index number) = after ∧ after.width = t.width ∧ after.sealed = t.sealed ∧
    ∀ i : Nat, after.entries[i]? =
      if i = index then some (t.width.value number) else t.entries[i]?
  /-- Every other edit is refused and leaves the table as it is. -/
  mark_of_not_takes : ∀ index number, ¬t.Takes index number →
    (∃ reason, t.mark index number = refuse reason) ∧ t.edit (.mark index number) = t
  /-- No edit changes the reserved entries of a sealed table. -/
  reserved_of_sealed : t.sealed = true → ∀ edits, (t.afterEdits edits).sealed = true ∧
    ∀ i < reservedEntries, (t.afterEdits edits).entries[i]? = t.entries[i]?

variable {t : Table} {index number i : Nat}

theorem isEntry_iff {value : Nat} : t.isEntry value = true ↔ value = 0 ∨
    (reservedEntries ≤ value ∧ value < t.entryCount) ∨ t.width.badMarker ≤ value := by
  unfold isEntry
  rw [Bool.or_eq_true, Bool.or_eq_true, Bool.and_eq_true, decide_eq_true_eq, decide_eq_true_eq,
    decide_eq_true_eq, decide_eq_true_eq, or_assoc]

/-- The rule of an edit is what the table checks. -/
theorem takes_iff : t.Takes index number ↔
    index < t.entryCount ∧ t.accept index number = .ok (t.width.value number) := by
  constructor
  · intro h
    refine ⟨h.index_lt, ?_⟩
    have hfits : ¬(t.width ≠ .fat32 ∧ t.width.value number ≠ number) := fun hn =>
      hn.2 (t.width.value_eq_self_iff.2 (h.number_le hn.1))
    unfold accept
    dsimp only
    rw [if_neg hfits]
    by_cases hindex : index < reservedEntries
    · rw [if_pos hindex, h.unsealed hindex]
      rfl
    · rw [if_neg hindex, if_pos (isEntry_iff.2 (h.value (Nat.not_lt.1 hindex)))]
  · rintro ⟨hlt, haccept⟩
    unfold accept at haccept
    dsimp only at haccept
    by_cases hfits : t.width ≠ .fat32 ∧ t.width.value number ≠ number
    · rw [if_pos hfits] at haccept
      cases haccept
    rw [if_neg hfits] at haccept
    have hnumber : t.width ≠ .fat32 → number ≤ t.width.mask := fun hw =>
      t.width.value_eq_self_iff.1 (by_contra fun hn => hfits ⟨hw, hn⟩)
    by_cases hindex : index < reservedEntries
    · rw [if_pos hindex] at haccept
      cases hsealed : t.sealed with
      | true =>
        rw [hsealed] at haccept
        cases haccept
      | false => exact ⟨hlt, hnumber, fun _ => hsealed, fun hle => absurd hle (Nat.not_le.2 hindex)⟩
    · rw [if_neg hindex] at haccept
      by_cases hentry : t.isEntry (t.width.value number) = true
      · exact ⟨hlt, hnumber, fun hn => absurd hn hindex, fun _ => isEntry_iff.1 hentry⟩
      · rw [if_neg hentry] at haccept
        cases haccept

/-- An edit that does not follow the rule is refused. -/
theorem mark_of_not_takes (h : ¬t.Takes index number) :
    ∃ reason, t.mark index number = refuse reason := by
  unfold mark
  by_cases hlt : index < t.entries.size
  · rw [dif_pos hlt]
    cases haccept : t.accept index number with
    | error reason => exact ⟨reason, rfl⟩
    | ok value =>
      rw [value_of_accept haccept] at haccept
      exact absurd (takes_iff.2 ⟨hlt, haccept⟩) h
  · rw [dif_neg hlt]
    exact ⟨_, rfl⟩

/-- A refused edit leaves the table as it is. -/
theorem edit_of_refused {reason : TableError} (h : t.mark index number = refuse reason) :
    t.edit (.mark index number) = t := by
  unfold edit
  dsimp only
  rw [h]
  rfl

/-- An edit that follows the rule sets one entry. -/
theorem Consistent.mark_of_takes (h : t.Consistent) (htakes : t.Takes index number) :
    ∃ after old : _, t.entries[index]? = some old ∧
      t.mark index number = .ok (after, decide (old ≠ t.width.value number)) ∧
      t.edit (.mark index number) = after ∧ after.width = t.width ∧ after.sealed = t.sealed ∧
      ∀ i : Nat, after.entries[i]? =
        if i = index then some (t.width.value number) else t.entries[i]? := by
  obtain ⟨hlt, haccept⟩ := takes_iff.1 htakes
  change index < t.entries.size at hlt
  have hold := Array.getElem?_eq_getElem hlt
  have hmark := h.mark_eq hold haccept
  refine ⟨_, _, hold, hmark, ?_, rfl, rfl, fun i => ?_⟩
  · unfold Table.edit
    dsimp only
    rw [hmark]
  · rw [Array.getElem?_setIfInBounds]
    by_cases hi : index = i
    · rw [if_pos hi, if_pos hi.symm, if_pos hlt]
    · rw [if_neg hi, if_neg (Ne.symm hi)]

/-- An edit keeps the seal, and with it the reserved entries. -/
theorem Consistent.edit_of_sealed (h : t.Consistent) (hsealed : t.sealed = true) (e : Edit) :
    (t.edit e).sealed = true ∧
      ∀ i < reservedEntries, (t.edit e).entries[i]? = t.entries[i]? := by
  cases e with
  | sealReserved => exact ⟨rfl, fun _ _ => rfl⟩
  | mark index number =>
    by_cases htakes : t.Takes index number
    · obtain ⟨after, old, -, -, hedit, -, hseal, hentries⟩ := h.mark_of_takes htakes
      rw [hedit]
      refine ⟨hseal.trans hsealed, fun i hi => ?_⟩
      have hne : i ≠ index := by
        rintro rfl
        rw [htakes.unsealed hi] at hsealed
        cases hsealed
      rw [hentries i, if_neg hne]
    · obtain ⟨reason, hrefused⟩ := mark_of_not_takes htakes
      rw [edit_of_refused hrefused]
      exact ⟨hsealed, fun _ _ => rfl⟩

/-- Edits keep the seal, and with it the reserved entries. -/
theorem Consistent.afterEdits_of_sealed (h : t.Consistent) (hsealed : t.sealed = true)
    (edits : List Edit) : (t.afterEdits edits).sealed = true ∧
      ∀ i < reservedEntries, (t.afterEdits edits).entries[i]? = t.entries[i]? := by
  unfold Table.afterEdits
  induction edits generalizing t with
  | nil => exact ⟨hsealed, fun _ _ => rfl⟩
  | cons e rest ih =>
    obtain ⟨hseal, hone⟩ := h.edit_of_sealed hsealed e
    obtain ⟨hseals, hall⟩ := ih (h.edit e).1 hseal
    exact ⟨hseals, fun i hi => (hall i hi).trans (hone i hi)⟩

theorem Consistent.keepsBooks (h : t.Consistent) : t.KeepsBooks := by
  have hentry : ∀ i entry : Nat, t.entries[i]? = some entry → entry ≤ t.width.mask := by
    intro i entry hentry
    have hle := h.entry_le i
    rwa [hentry, Option.getD_some] at hle
  exact {
    entry_le := hentry
    badClusters_eq := h.badClusters_eq.trans
      (countP_entries fun c entry hc => t.width.isBad_iff_of_le (hentry c entry hc))
    freeClusters_eq := t.freeClusters_eq
    firstFree_eq_some := fun _ _ => firstFree_eq_some_iff
    firstFree_eq_none := fun _ => firstFree_eq_none_iff
    mark_of_takes := fun _ _ => h.mark_of_takes
    mark_of_not_takes := fun _ _ htakes => by
      obtain ⟨reason, hrefused⟩ := Table.mark_of_not_takes htakes
      exact ⟨⟨reason, hrefused⟩, edit_of_refused hrefused⟩
    reserved_of_sealed := h.afterEdits_of_sealed }

/-- Edits never change whether a table is sealed, but for the one that seals it. -/
theorem Consistent.sealed_afterEdits (h : t.Consistent) (edits : List Edit) :
    (t.afterEdits edits).sealed = true ↔ t.sealed = true ∨ .sealReserved ∈ edits := by
  unfold Table.afterEdits
  induction edits generalizing t with
  | nil => simp
  | cons e rest ih =>
    rw [List.foldl_cons, ih (h.edit e).1, List.mem_cons]
    cases e with
    | sealReserved => exact iff_of_true (Or.inl rfl) (Or.inr (Or.inl rfl))
    | mark index number =>
      have hseal : (t.edit (.mark index number)).sealed = t.sealed := by
        by_cases htakes : t.Takes index number
        · obtain ⟨after, old, -, -, hedit, -, hseal, -⟩ := h.mark_of_takes htakes
          rw [hedit, hseal]
        · obtain ⟨reason, hrefused⟩ := mark_of_not_takes htakes
          rw [edit_of_refused hrefused]
      rw [hseal, or_iff_right (a := Edit.sealReserved = .mark index number) nofun]

/-- Only a table that was made of zeros starts with its reserved entries open. -/
theorem Starts.sealed_iff {width : Width} {entryCount : Nat} (h : Starts width entryCount t) :
    t.sealed = true ↔ t ≠ Table.blank width entryCount := by
  have hopen : ∀ s : Table, s.sealed = true → s ≠ Table.blank width entryCount := by
    rintro s hsealed rfl
    cases hsealed
  cases h with
  | blank => exact iff_of_false nofun fun hne => hne rfl
  | @fresh media _ hfresh =>
    obtain ⟨_, -, hfresh⟩ := bind_eq_ok_iff.1 hfresh
    obtain ⟨_, -, hsealed⟩ := bind_eq_ok_iff.1 hfresh
    cases hsealed
    exact iff_of_true rfl (hopen _ rfl)
  | unpack hunpack =>
    obtain ⟨-, -, hsealed, -⟩ := unpack_eq_ok_iff.1 hunpack
    exact iff_of_true hsealed (hopen _ hsealed)

/-- **Tables keep their books.** Whatever was asked of a table of zeros, of that of a fresh volume or
of one that was read from bytes, its counts are those of its entries, and every further edit is taken
just if its rule allows it and then sets that entry alone. Nothing changes the reserved entries of a
table that is sealed, and it is sealed unless it was made of zeros and nobody asked for it. -/
theorem keepsBooks_afterEdits (width : Width) (entryCount : UInt32) {start : Table}
    (h : Starts width entryCount.toNat start) (edits : List Edit) :
    (start.afterEdits edits).KeepsBooks ∧ (start.afterEdits edits).width = width ∧
      (start.afterEdits edits).entryCount = entryCount.toNat ∧
      ((start.afterEdits edits).sealed = true ↔
        start ≠ blank width entryCount.toNat ∨ .sealReserved ∈ edits) := by
  obtain ⟨hstart, -, -⟩ := h.consistent entryCount.toNat_lt
  obtain ⟨hafter, hwidth, hcount⟩ := consistent_afterEdits entryCount.toNat_lt h edits
  refine ⟨hafter.keepsBooks, hwidth, hcount, ?_⟩
  rw [hstart.sealed_afterEdits, h.sealed_iff]

/-- A FAT12 table of five entries with a bad cluster, after edits of which two are refused. -/
theorem keepsBooks_afterEdits_fat12 :
    let bytes : ByteArray := ⟨#[0xF0, 0xFF, 0xFF, 0xF7, 0x0F, 0x00, 0x00, 0x00]⟩
    let edits : List Edit := [.mark 3 0xFF7, .mark 0 0, .mark 2 4, .mark 4 0x1FF7]
    ∃ start, unpack .fat12 5 bytes = .ok start ∧
      start.afterEdits edits = ⟨.fat12, #[0xFF0, 0xFFF, 4, 0xFF7, 0], 1, true⟩ ∧
      (start.afterEdits edits).KeepsBooks := by
  intro bytes edits
  have hstart : unpack .fat12 5 bytes =
      .ok ⟨.fat12, #[0xFF0, 0xFFF, 0xFF7, 0, 0], 1, true⟩ := by decide +kernel
  have hafter : (⟨.fat12, #[0xFF0, 0xFFF, 0xFF7, 0, 0], 1, true⟩ : Table).afterEdits edits =
      ⟨.fat12, #[0xFF0, 0xFFF, 4, 0xFF7, 0], 1, true⟩ := by decide +kernel
  exact ⟨_, hstart, hafter, (keepsBooks_afterEdits .fat12 5 (.unpack hstart) edits).1⟩

end Table

end FatVolume
