import FatVolume.Proofs.Table.Defects
import FatVolume.Table

/-!
# Edited tables

A table starts as zeros, as that of a fresh volume, or as read from bytes, and is edited from there
on: entries are marked, and the reserved ones are sealed. Whatever is asked of it, its entries stay
values of its width and the number beside them stays that of the bad clusters (`Consistent`).
`Consistent.mark_eq` says what an edit does, `consistent_afterEdits` what all of them keep.
-/

namespace FatVolume

namespace Table

/-- A change that can be asked of a table. -/
inductive Edit where
  /-- Set an entry. -/
  | mark (index number : Nat)
  /-- Fix the reserved entries. -/
  | sealReserved
  deriving DecidableEq

/-- The table after a change was asked for; a change that is refused leaves it as it is. -/
def edit (t : Table) : Edit → Table
  | .mark index number => match t.mark index number with
    | .ok (after, _) => after
    | .error _ => t
  | .sealReserved => t.sealReserved

/-- The table after a sequence of changes was asked for. -/
def afterEdits (t : Table) (edits : List Edit) : Table := edits.foldl edit t

/-- The tables that edits start from. -/
inductive Starts (width : Width) (entryCount : Nat) : Table → Prop
  /-- A table of zeros. -/
  | blank : Starts width entryCount (blank width entryCount)
  /-- The table of a fresh volume. -/
  | fresh {media : UInt8} {t : Table} (h : fresh width entryCount media = .ok t) :
      Starts width entryCount t
  /-- A table that is read from bytes. -/
  | unpack {bytes : ByteArray} {t : Table} (h : unpack width entryCount bytes = .ok t) :
      Starts width entryCount t

/-- What holds of every table: entries are values of the width, bad clusters are counted, and a
word of 32 bits counts the entries. -/
structure Consistent (t : Table) : Prop where
  /-- No entry exceeds the mask. -/
  entry_le : ∀ i : Nat, t.entries[i]?.getD 0 ≤ t.width.mask
  /-- The bad clusters are counted. -/
  badClusters_eq :
    t.badClusters = (t.entries.toList.drop reservedEntries).countP t.width.isBad
  /-- A word counts the entries. -/
  entryCount_lt : t.entryCount < 2 ^ 32

/-- Replacing a member of a list after the first ones changes the members with a property by those
two. -/
theorem countP_drop_set {α : Type} {list : List α} (first : Nat) {i : Nat} {old : α}
    (hold : list[i]? = some old) (new : α) (property : α → Bool) :
    ((list.set i new).drop first).countP property +
        (if first ≤ i ∧ property old = true then 1 else 0) =
      (list.drop first).countP property + (if first ≤ i ∧ property new = true then 1 else 0) := by
  obtain ⟨hlt, rfl⟩ := List.getElem?_eq_some_iff.1 hold
  by_cases hi : first ≤ i
  · have hin : i - first < (list.drop first).length := by
      rw [List.length_drop]
      omega
    have hget : (list.drop first)[i - first] = list[i] := by
      rw [List.getElem_drop]
      congr 1
      omega
    have hpos : property list[i] = true → 0 < (list.drop first).countP property := fun hp =>
      List.countP_pos_iff.2 ⟨_, List.getElem_mem hin, hget ▸ hp⟩
    rw [List.drop_set, if_neg (by omega), List.countP_set hin, hget]
    by_cases hp : property list[i] = true
    · have := hpos hp
      simp only [hi, hp, true_and, if_true]
      omega
    · simp only [hi, hp, true_and, Bool.false_eq_true, if_false]
      omega
  · rw [List.drop_set, if_pos (by omega), if_neg fun h => hi h.1, if_neg fun h => hi h.1]

variable {t : Table} {index number old value : Nat}

/-- A table accepts no other value than that of the number. -/
theorem value_of_accept (h : t.accept index number = .ok value) :
    value = t.width.value number := by
  unfold accept at h
  dsimp only at h
  split at h
  · cases h
  · split at h
    · split at h
      · cases h
      · exact (Except.ok.inj h).symm
    · split at h
      · exact (Except.ok.inj h).symm
      · cases h

/-- The bad clusters of a table are counted again without a breakdown. -/
theorem Consistent.recount_eq (h : t.Consistent) (hold : t.entries[index]? = some old)
    (new : Nat) :
    t.recount index old new = .ok
      (((t.entries.setIfInBounds index new).toList.drop reservedEntries).countP t.width.isBad) := by
  have hsize := h.entryCount_lt
  have hcount := countP_drop_set reservedEntries
    (by rw [Array.getElem?_toList, hold] : t.entries.toList[index]? = some old) new t.width.isBad
  rw [← h.badClusters_eq] at hcount
  have hle := List.countP_le_length (p := t.width.isBad)
    (l := (t.entries.toList.set index new).drop reservedEntries)
  rw [List.length_drop, List.length_set, Array.length_toList] at hle
  change t.entries.size < 2 ^ 32 at hsize
  rw [Array.toList_setIfInBounds]
  unfold recount
  by_cases hindex : index < reservedEntries
  · rw [if_neg fun hn => absurd hn.1 (Nat.not_le.2 hindex),
      if_neg fun hn => absurd hn.1 (Nat.not_le.2 hindex)] at hcount
    rw [if_pos hindex]
    exact congrArg Except.ok hcount.symm
  · rw [if_neg hindex]
    simp only [Nat.not_lt.1 hindex, true_and] at hcount
    cases hbefore : t.width.isBad old <;> cases hafter : t.width.isBad new <;>
      simp only [hbefore, hafter, Bool.false_eq_true, if_true, if_false, Nat.add_zero] at hcount
    · exact congrArg Except.ok hcount.symm
    · rw [hcount]
      exact within_of_lt (by omega)
    · rw [← hcount]
      exact minus_of_le (Nat.le_add_left 1 _)
    · exact congrArg Except.ok (Nat.add_right_cancel hcount).symm

/-- An entry that accepts a number takes its value, and the bad clusters are those of the entries
afterwards. -/
theorem Consistent.mark_eq (h : t.Consistent) (hold : t.entries[index]? = some old)
    (ha : t.accept index number = .ok value) :
    t.mark index number = .ok ({ t with
      entries := t.entries.setIfInBounds index value
      badClusters :=
        ((t.entries.setIfInBounds index value).toList.drop reservedEntries).countP t.width.isBad },
      decide (old ≠ value)) := by
  rw [Table.mark_eq hold ha]
  by_cases hsame : old = value
  · obtain ⟨hlt, rfl⟩ := Array.getElem?_eq_some_iff.1 hold
    have hset : t.entries.setIfInBounds index value = t.entries := by
      rw [Array.setIfInBounds_def, dif_pos hlt, ← hsame, Array.set_getElem_self]
    rw [if_pos hsame, hset, ← h.badClusters_eq, decide_eq_false (not_not.2 hsame)]
  · rw [if_neg hsame, h.recount_eq hold, decide_eq_true hsame]
    rfl

/-- A number that is taken goes to an entry of the table which accepts it. -/
theorem exists_accept_of_mark {after : Table} {changed : Bool}
    (h : t.mark index number = .ok (after, changed)) :
    ∃ old value, t.entries[index]? = some old ∧ t.accept index number = .ok value := by
  unfold mark at h
  split at h
  · rename_i hlt
    cases ha : t.accept index number with
    | error reason =>
      rw [ha] at h
      cases h
    | ok value => exact ⟨_, value, Array.getElem?_eq_getElem hlt, rfl⟩
  · cases h

/-- A number that is taken changes the bad clusters by the entry that it replaces and by itself. -/
theorem Consistent.badClusters_mark (h : t.Consistent) {after : Table} {changed : Bool}
    (hmark : t.mark index number = .ok (after, changed)) :
    after.badClusters + (if t.isBad index = true then 1 else 0) =
      t.badClusters +
        (if reservedEntries ≤ index ∧ t.width.isBad number = true then 1 else 0) := by
  obtain ⟨old, value, hold, ha⟩ := exists_accept_of_mark hmark
  have hvalue : t.width.isBad value = t.width.isBad number := by
    rw [value_of_accept ha]
    unfold Width.isBad Width.value
    rw [Nat.mod_mod]
  have hbad : t.isBad index = true ↔ reservedEntries ≤ index ∧ t.width.isBad old = true := by
    unfold isBad
    rw [hold, Option.any_some, Bool.and_eq_true, decide_eq_true_eq]
  have hcount := countP_drop_set reservedEntries
    (by rw [Array.getElem?_toList, hold] : t.entries.toList[index]? = some old) value t.width.isBad
  rw [h.mark_eq hold ha] at hmark
  cases hmark
  rw [← h.badClusters_eq, hvalue] at hcount
  dsimp only
  rw [Array.toList_setIfInBounds]
  simp only [hbad]
  exact hcount

/-- A number is refused, or the table takes it and stays consistent. -/
theorem Consistent.mark (h : t.Consistent) (index number : Nat) :
    (∃ reason, t.mark index number = refuse reason) ∨
      ∃ after changed, t.mark index number = .ok (after, changed) ∧ after.Consistent ∧
        after.width = t.width ∧ after.entryCount = t.entryCount := by
  by_cases hlt : index < t.entries.size
  · cases ha : t.accept index number with
    | error reason =>
      refine Or.inl ⟨reason, ?_⟩
      unfold Table.mark
      rw [dif_pos hlt, ha]
      rfl
    | ok value =>
      have hvalue := value_of_accept ha
      refine Or.inr ⟨_, _, h.mark_eq (Array.getElem?_eq_getElem hlt) ha, ?_, rfl,
        Array.size_setIfInBounds⟩
      exact {
        entry_le := fun i => by
          show ((t.entries.setIfInBounds index value)[i]?).getD 0 ≤ t.width.mask
          rw [Array.getElem?_setIfInBounds]
          by_cases hi : index = i
          · rw [if_pos hi, if_pos hlt, Option.getD_some, hvalue]
            exact t.width.value_le_mask number
          · rw [if_neg hi]
            exact h.entry_le i
        badClusters_eq := rfl
        entryCount_lt := by
          show (t.entries.setIfInBounds index value).size < 2 ^ 32
          rw [Array.size_setIfInBounds]
          exact h.entryCount_lt }
  · exact Or.inl ⟨_, dif_neg hlt⟩

/-- A change keeps a table consistent, and its width and number of entries. -/
theorem Consistent.edit (h : t.Consistent) (e : Edit) :
    (t.edit e).Consistent ∧ (t.edit e).width = t.width ∧
      (t.edit e).entryCount = t.entryCount := by
  cases e with
  | mark index number =>
    unfold Table.edit
    rcases h.mark index number with ⟨reason, hrefused⟩ | ⟨after, changed, hmark, hafter⟩
    · dsimp only
      rw [hrefused]
      exact ⟨h, rfl, rfl⟩
    · dsimp only
      rw [hmark]
      exact hafter
  | sealReserved => exact ⟨⟨h.entry_le, h.badClusters_eq, h.entryCount_lt⟩, rfl, rfl⟩

/-- Changes keep a table consistent, and its width and number of entries. -/
theorem Consistent.afterEdits (h : t.Consistent) (edits : List Edit) :
    (t.afterEdits edits).Consistent ∧ (t.afterEdits edits).width = t.width ∧
      (t.afterEdits edits).entryCount = t.entryCount := by
  unfold Table.afterEdits
  induction edits generalizing t with
  | nil => exact ⟨h, rfl, rfl⟩
  | cons e rest ih =>
    obtain ⟨hone, hwidth, hcount⟩ := h.edit e
    obtain ⟨hall, hwidths, hcounts⟩ := ih hone
    exact ⟨hall, hwidths.trans hwidth, hcounts.trans hcount⟩

/-- A table of zeros is consistent. -/
theorem consistent_blank (width : Width) {entryCount : Nat} (h : entryCount < 2 ^ 32) :
    (blank width entryCount).Consistent where
  entry_le := fun i => by
    show ((Array.replicate entryCount 0)[i]?).getD 0 ≤ _
    rw [Array.getElem?_replicate]
    split <;> exact Nat.zero_le _
  badClusters_eq := by
    show 0 = ((Array.replicate entryCount 0).toList.drop _).countP width.isBad
    rw [Array.toList_replicate, List.drop_replicate, List.countP_replicate, width.isBad_zero]
    rfl
  entryCount_lt := by
    show (Array.replicate entryCount 0).size < _
    rw [Array.size_replicate]
    exact h

end Table

/-- Entries that are read from bytes are values of the width. -/
theorem Width.unpackedEntry_le_mask (w : Width) {byte : Nat → Nat} (hbyte : ∀ i, byte i < 256)
    (n : Nat) : w.unpackedEntry byte n ≤ w.mask := by
  cases w with
  | fat12 =>
    have hlow := hbyte (n * 3 / 2)
    have hhigh := hbyte (n * 3 / 2 + 1)
    show (if n % 2 = 0 then _ else _) ≤ 2 ^ 12 - 1
    split <;> omega
  | fat16 =>
    have hlow := hbyte (2 * n)
    have hhigh := hbyte (2 * n + 1)
    show byte (2 * n) + 256 * byte (2 * n + 1) ≤ 2 ^ 16 - 1
    omega
  | fat32 => exact Width.fat32.value_le_mask _

/-- A byte of a buffer is a byte. -/
theorem Buffer.byteAt_lt (buffer : ByteArray) (i : Nat) : byteAt buffer i < 256 := by
  unfold byteAt
  split
  · exact UInt8.toNat_lt _
  · decide

namespace Table

/-- A table is read from bytes that have room for it. -/
theorem unpack_eq_ok_iff {width : Width} {entryCount : Nat} {bytes : ByteArray} {t : Table} :
    unpack width entryCount bytes = .ok t ↔ width.tableBytes entryCount ≤ bytes.size ∧
      t.width = width ∧ t.sealed = true ∧
      t.entries = Array.ofFn (fun i : Fin entryCount =>
        width.unpackedEntry (Buffer.byteAt bytes) i) ∧
      t.badClusters = (t.entries.toList.drop reservedEntries).countP width.isBad := by
  obtain ⟨w, entries, badClusters, sealed⟩ := t
  unfold unpack
  dsimp only
  split
  · exact iff_of_false nofun fun h => by omega
  · rw [Except.ok.injEq, Table.mk.injEq]
    constructor
    · rintro ⟨rfl, rfl, rfl, rfl⟩
      exact ⟨by omega, rfl, rfl, rfl, rfl⟩
    · rintro ⟨-, rfl, rfl, rfl, rfl⟩
      exact ⟨rfl, rfl, rfl, rfl⟩

/-- Every table at its start is consistent, of its width and with its number of entries. -/
theorem Starts.consistent {width : Width} {entryCount : Nat} (hcount : entryCount < 2 ^ 32)
    (h : Starts width entryCount t) :
    t.Consistent ∧ t.width = width ∧ t.entryCount = entryCount := by
  have hblank := consistent_blank width hcount
  have hsize : (Table.blank width entryCount).entryCount = entryCount := Array.size_replicate
  cases h with
  | blank => exact ⟨hblank, rfl, hsize⟩
  | @fresh media _ hfresh =>
    obtain ⟨⟨first, _⟩, hfirst, hfresh⟩ := bind_eq_ok_iff.1 hfresh
    obtain ⟨⟨second, _⟩, hsecond, hsealed⟩ := bind_eq_ok_iff.1 hfresh
    cases hsealed
    have hedits := hblank.afterEdits
      [.mark 0 (width.mask - 255 + media.toNat), .mark 1 width.mask, .sealReserved]
    have hafter : (Table.blank width entryCount).afterEdits
        [.mark 0 (width.mask - 255 + media.toNat), .mark 1 width.mask, .sealReserved] =
          second.sealReserved := by
      simp only [Table.afterEdits, List.foldl_cons, List.foldl_nil, Table.edit, hfirst, hsecond]
    rw [hafter, hsize] at hedits
    exact hedits
  | unpack hunpack =>
    obtain ⟨-, rfl, -, hentries, hbad⟩ := unpack_eq_ok_iff.1 hunpack
    have hsize : t.entryCount = entryCount := by
      show t.entries.size = entryCount
      rw [hentries, Array.size_ofFn]
    refine ⟨⟨fun i => ?_, hbad, hsize ▸ hcount⟩, rfl, hsize⟩
    rw [hentries, Array.getElem?_ofFn]
    split
    · exact t.width.unpackedEntry_le_mask (Buffer.byteAt_lt _) i
    · exact Nat.zero_le _

/-- Whatever is asked of a table, it stays consistent, of its width and with its number of
entries. -/
theorem consistent_afterEdits {width : Width} {entryCount : Nat} (hcount : entryCount < 2 ^ 32)
    {start : Table} (h : Starts width entryCount start) (edits : List Edit) :
    (start.afterEdits edits).Consistent ∧ (start.afterEdits edits).width = width ∧
      (start.afterEdits edits).entryCount = entryCount := by
  obtain ⟨hstart, hwidth, hsize⟩ := h.consistent hcount
  obtain ⟨hall, hwidths, hsizes⟩ := hstart.afterEdits edits
  exact ⟨hall, hwidths.trans hwidth, hsizes.trans hsize⟩

end Table

end FatVolume
