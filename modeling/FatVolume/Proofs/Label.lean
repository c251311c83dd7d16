import Mathlib.Data.List.Basic
import FatVolume.Label
import FatVolume.Proofs.Text

/-!
# What names a volume

A text names a label if nothing speaks against it: it is ASCII, has at most eleven bytes, does not
start with a space and holds no reserved character (`Label.IsName`). Of what speaks against a text the
first in this order is told (`Label.IsFirstReason`). A label keeps its text up to the spaces at the
end, so it is read again from the text that it is shown as (`parse_exact`).
-/

namespace FatVolume

namespace Label

open Text

/-- A character that no label holds: a control character, or one that short names reserve. -/
def IsReserved (c : Char) : Prop :=
  c.toNat < 0x20 ∨ c.toNat = 0x7F ∨
    c ∈ ['*', '?', '.', ',', ';', ':', '/', '\\', '|', '+', '=', '<', '>', '[', ']', '"']

/-- A text that nothing speaks against. -/
structure IsName (text : String) : Prop where
  /-- The characters are ASCII. -/
  isAscii : IsAscii text.toList
  /-- There is room for the bytes. -/
  size_le : text.utf8ByteSize ≤ 11
  /-- The text does not start with a space. -/
  head_ne : text.toList.head? ≠ some ' '
  /-- No character is reserved. -/
  notReserved : ∀ c ∈ text.toList, ¬IsReserved c

/-- A reason speaks against a text. Of reserved characters the first one counts. -/
def SpeaksAgainst (text : String) : LabelError → Prop
  | .notAscii told => told = text ∧ ¬IsAscii text.toList
  | .tooLong told => told = text ∧ 11 < text.utf8ByteSize
  | .leadingSpace => text.toList.head? = some ' '
  | .forbidden c => ∃ before after, text.toList = before ++ c :: after ∧ IsReserved c ∧
      ∀ b ∈ before, ¬IsReserved b

/-- The place of a reason among those that speak against a text. -/
def precedence : LabelError → Nat
  | .notAscii _ => 0
  | .tooLong _ => 1
  | .leadingSpace => 2
  | .forbidden _ => 3

/-- A reason is the first one that speaks against a text. -/
def IsFirstReason (text : String) (reason : LabelError) : Prop :=
  SpeaksAgainst text reason ∧
    ∀ other, SpeaksAgainst text other → precedence reason ≤ precedence other

variable {c : Char} {cs ds : List Char} {text : String} {reason : LabelError} {l : Label}

/-- The reserved characters are the forbidden ones. -/
theorem isForbidden_iff : isForbidden c = true ↔ IsReserved c := by
  unfold isForbidden IsReserved
  rw [Bool.or_eq_true, Bool.or_eq_true, decide_eq_true_eq, decide_eq_true_eq, or_assoc,
    List.contains_iff_mem]
  refine or_congr Iff.rfl (or_congr ?_ Iff.rfl)
  rw [← Char.toNat_inj]
  rfl

/-- No character is reserved just if none is found. -/
theorem find?_eq_none_iff : cs.find? isForbidden = none ↔ ∀ c ∈ cs, ¬IsReserved c := by
  simp only [List.find?_eq_none, isForbidden_iff]

/-- The first reserved character speaks against a text. -/
theorem speaksAgainst_forbidden_iff :
    SpeaksAgainst text (.forbidden c) ↔ text.toList.find? isForbidden = some c := by
  have hfree : ∀ b, (!isForbidden b) = true ↔ ¬IsReserved b := fun b => by
    rw [Bool.not_eq_true', ← Bool.not_eq_true, isForbidden_iff]
  simp only [List.find?_eq_some_iff_append, isForbidden_iff, hfree]
  constructor
  · rintro ⟨before, after, htext, hreserved, hbefore⟩
    exact ⟨hreserved, before, after, htext, hbefore⟩
  · rintro ⟨hreserved, before, after, htext, hbefore⟩
    exact ⟨before, after, htext, hreserved, hbefore⟩

/-- A character is outside of ASCII if it is greater than the last one. -/
theorem any_gt_iff : cs.any (fun c => '\x7f' < c) = true ↔ ¬IsAscii cs := by
  unfold IsAscii
  simp only [List.any_eq_true, decide_eq_true_eq, not_forall, exists_prop, not_lt]
  exact Iff.rfl

/-- A name passes each of the checks. -/
theorem isName_iff_checks : IsName text ↔ IsAscii text.toList ∧ text.utf8ByteSize ≤ 11 ∧
    text.toList.head? ≠ some ' ' ∧ text.toList.find? isForbidden = none := by
  rw [find?_eq_none_iff]
  exact ⟨fun h => ⟨h.isAscii, h.size_le, h.head_ne, h.notReserved⟩,
    fun ⟨hascii, hsize, hhead, hfree⟩ => ⟨hascii, hsize, hhead, hfree⟩⟩

instance : DecidablePred IsName := fun _ => decidable_of_iff' _ isName_iff_checks

theorem isName_empty : IsName "" := by decide

/-- A text is a name just if nothing speaks against it. -/
theorem isName_iff : IsName text ↔ ∀ reason, ¬SpeaksAgainst text reason := by
  constructor
  · intro h reason hspeaks
    cases reason with
    | notAscii told => exact hspeaks.2 h.isAscii
    | tooLong told => exact absurd hspeaks.2 (not_lt.2 h.size_le)
    | leadingSpace => exact h.head_ne hspeaks
    | forbidden c =>
      obtain ⟨before, after, htext, hreserved, -⟩ := hspeaks
      exact h.notReserved c (htext ▸ List.mem_append_right before List.mem_cons_self) hreserved
  · intro h
    refine ⟨not_not.1 fun hn => h (.notAscii text) ⟨rfl, hn⟩,
      not_lt.1 fun hn => h (.tooLong text) ⟨rfl, hn⟩, h .leadingSpace, fun c hc hreserved => ?_⟩
    obtain ⟨first, hfirst⟩ := Option.isSome_iff_exists.1
      (List.find?_isSome.2 ⟨c, hc, isForbidden_iff.2 hreserved⟩)
    exact h (.forbidden first) (speaksAgainst_forbidden_iff.2 hfirst)

/-- There is no more than one first reason. -/
theorem IsFirstReason.eq {other : LabelError} (h : IsFirstReason text reason)
    (h' : IsFirstReason text other) : reason = other := by
  obtain ⟨hreason, hfirst⟩ := h
  obtain ⟨hother, hfirst'⟩ := h'
  have hsame := Nat.le_antisymm (hfirst other hother) (hfirst' reason hreason)
  cases reason <;> cases other <;> try cases hsame
  case notAscii.notAscii => rw [hreason.1, hother.1]
  case tooLong.tooLong => rw [hreason.1, hother.1]
  case leadingSpace.leadingSpace => rfl
  case forbidden.forbidden =>
    rw [speaksAgainst_forbidden_iff] at hreason hother
    rw [Option.some.inj (hreason.symm.trans hother)]

/-- What speaks against ASCII text comes after the first reason. -/
theorem one_le_precedence (hascii : IsAscii text.toList) (h : SpeaksAgainst text reason) :
    1 ≤ precedence reason := by
  cases reason with
  | notAscii told => exact absurd hascii h.2
  | tooLong _ => exact Nat.le_refl 1
  | leadingSpace => exact Nat.le_succ 1
  | forbidden _ => exact Nat.succ_le_succ (Nat.zero_le 2)

/-- What speaks against ASCII text that is not too long comes after the first two reasons. -/
theorem two_le_precedence (hascii : IsAscii text.toList) (hsize : text.utf8ByteSize ≤ 11)
    (h : SpeaksAgainst text reason) : 2 ≤ precedence reason := by
  cases reason with
  | notAscii told => exact absurd hascii h.2
  | tooLong told => exact absurd h.2 (not_lt.2 hsize)
  | leadingSpace => exact Nat.le_refl 2
  | forbidden _ => exact Nat.le_succ 2

/-- A text that is not empty is refused for the first reason against it, and else is the label. -/
theorem parse_cases (hne : text ≠ "") :
    IsName text ∧ parse text = .ok (padded text.toList) ∨
      ∃ reason, parse text = .error reason ∧ IsFirstReason text reason := by
  unfold parse
  dsimp only
  rw [if_neg (mt String.toList_eq_nil_iff.1 hne)]
  by_cases hascii : IsAscii text.toList
  · rw [if_neg (any_gt_iff.not_left.2 hascii), ← hascii.utf8ByteSize_eq]
    by_cases hsize : 11 < text.utf8ByteSize
    · rw [if_pos hsize]
      exact Or.inr ⟨_, rfl, ⟨rfl, hsize⟩, fun _ => one_le_precedence hascii⟩
    · rw [if_neg hsize]
      by_cases hhead : text.toList.head? = some ' '
      · rw [if_pos hhead]
        exact Or.inr ⟨_, rfl, hhead, fun _ => two_le_precedence hascii (not_lt.1 hsize)⟩
      · rw [if_neg hhead]
        cases hfirst : text.toList.find? isForbidden with
        | some c =>
          refine Or.inr ⟨_, rfl, speaksAgainst_forbidden_iff.2 hfirst, fun other hother => ?_⟩
          refine Nat.succ_le_of_lt ((two_le_precedence hascii (not_lt.1 hsize) hother).lt_of_ne ?_)
          rintro htwo
          cases other with
          | leadingSpace => exact hhead hother
          | notAscii _ | tooLong _ | forbidden _ => cases htwo
        | none =>
          exact Or.inl ⟨⟨hascii, not_lt.1 hsize, hhead, find?_eq_none_iff.1 hfirst⟩, rfl⟩
  · rw [if_pos (any_gt_iff.2 hascii)]
    exact Or.inr ⟨_, rfl, ⟨rfl, hascii⟩, fun _ _ => Nat.zero_le _⟩

/-- The text that a label keeps. Without a text it is that of a volume without a name. -/
def nameOf (text : String) : String := if text = "" then "NO NAME" else text

theorem IsName.isName_nameOf (h : IsName text) : IsName (nameOf text) := by
  unfold nameOf
  split
  · decide
  · exact h

theorem parse_empty : parse "" = .ok (padded (nameOf "").toList) := rfl

/-- A text is accepted just if it is a name, and then the label keeps it. -/
theorem parse_eq_ok_iff : parse text = .ok l ↔ IsName text ∧ l = padded (nameOf text).toList := by
  by_cases hempty : text = ""
  · subst hempty
    rw [parse_empty, Except.ok.injEq, and_iff_right isName_empty, eq_comm]
  · obtain ⟨hname, hparse⟩ | ⟨reason, hparse, hreason⟩ := parse_cases hempty
    · rw [hparse, Except.ok.injEq, and_iff_right hname, eq_comm, nameOf, if_neg hempty]
    · rw [hparse]
      exact iff_of_false nofun fun h => isName_iff.1 h.1 reason hreason.1

/-- A text is refused for a reason just if it is the first one against it. -/
theorem parse_eq_error_iff : parse text = .error reason ↔ IsFirstReason text reason := by
  by_cases hempty : text = ""
  · subst hempty
    rw [parse_empty]
    exact iff_of_false nofun fun h => isName_iff.1 isName_empty reason h.1
  · obtain ⟨hname, hparse⟩ | ⟨first, hparse, hfirst⟩ := parse_cases hempty
    · rw [hparse]
      exact iff_of_false nofun fun h => isName_iff.1 hname reason h.1
    · rw [hparse, Except.error.injEq]
      exact ⟨fun h => h ▸ hfirst, hfirst.eq⟩

/-- Places after a text count as spaces, and so do spaces at its end. -/
theorem getD_append_spaces (cs : List Char) (n i : Nat) :
    (cs ++ List.replicate n ' ')[i]?.getD ' ' = cs[i]?.getD ' ' := by
  rw [List.getElem?_append, List.getElem?_replicate]
  split
  · rfl
  · rw [List.getElem?_eq_none (not_lt.1 ‹_›)]
    split <;> rfl

/-- Spaces at the end of a text make no difference to its label. -/
theorem padded_append_spaces (cs : List Char) (n : Nat) :
    padded (cs ++ List.replicate n ' ') = padded cs := by
  unfold padded
  simp only [getD_append_spaces]

/-- A label has the bytes of its text, and spaces after them. -/
theorem toList_padded (h : cs.length ≤ 11) :
    (padded cs).bytes.toList = (cs.rightpad 11 ' ').map byte := by
  have hlength : (cs.rightpad 11 ' ').length = 11 := by
    rw [List.length_rightpad, Nat.max_eq_left h]
  refine List.ext_getElem (by rw [Vector.length_toList, List.length_map, hlength]) fun i hi hi' => ?_
  have hbyte : (padded cs).bytes.toList[i] = byte (cs[i]?.getD ' ') := by
    rw [Vector.getElem_toList]
    exact Vector.getElem_ofFn _
  rw [List.length_map] at hi'
  rw [hbyte, List.getElem_map, ← Option.getD_some (a := (cs.rightpad 11 ' ')[i]) (b := ' '),
    ← List.getElem?_eq_getElem hi', List.rightpad, getD_append_spaces]

theorem IsName.length_le (h : IsName text) : text.toList.length ≤ 11 :=
  h.isAscii.utf8ByteSize_eq ▸ h.size_le

/-- The bytes of the label of a name are those of the name, and spaces after them. -/
theorem IsName.toList_padded (h : IsName text) :
    (padded text.toList).bytes.toList = text.toByteArray.data.toList.rightpad 11 0x20 := by
  rw [Label.toList_padded h.length_le, h.isAscii.data_toByteArray, List.rightpad, List.rightpad,
    List.map_append, List.map_replicate, List.length_map]
  rfl

theorem isAscii_rightpad (h : IsAscii cs) : IsAscii (cs.rightpad 11 ' ') :=
  isAscii_append.2 ⟨h, fun c hc => by rw [List.eq_of_mem_replicate hc]; decide⟩

/-- The label of a text is shown as the text, filled up with spaces. -/
theorem decode_padded (h : IsAscii cs) (hlength : cs.length ≤ 11) :
    Utf8.decode (padded cs).bytes.toList = cs.rightpad 11 ' ' := by
  rw [toList_padded hlength, (isAscii_rightpad h).decode_eq]

/-- ASCII texts have the same label just if they differ in spaces at their end. -/
theorem padded_eq_iff (hc : IsAscii cs) (hd : IsAscii ds) (hclen : cs.length ≤ 11)
    (hdlen : ds.length ≤ 11) :
    padded cs = padded ds ↔ ∃ core m n, cs = core ++ List.replicate m ' ' ∧
      ds = core ++ List.replicate n ' ' := by
  constructor
  · intro h
    have hfilled : cs.rightpad 11 ' ' = ds.rightpad 11 ' ' := by
      rw [← decode_padded hc hclen, ← decode_padded hd hdlen, h]
    obtain ⟨spaces, hds, hspaces⟩ | ⟨spaces, hcs, hspaces⟩ := List.append_eq_append_iff.1 hfilled
    · have hreplicate := (List.append_eq_replicate_iff.1 hspaces.symm).2.1
      exact ⟨cs, 0, spaces.length, (List.append_nil cs).symm, hreplicate ▸ hds⟩
    · have hreplicate := (List.append_eq_replicate_iff.1 hspaces.symm).2.1
      exact ⟨ds, spaces.length, 0, hreplicate ▸ hcs, (List.append_nil ds).symm⟩
  · rintro ⟨core, m, n, rfl, rfl⟩
    rw [padded_append_spaces, padded_append_spaces]

/-- The only blank in a name is the space. -/
theorem IsName.eq_space (h : IsName text) (hc : c ∈ text.toList) (hblank : isBlank c = true) :
    c = ' ' := by
  have hascii := h.isAscii c hc
  have hcontrol : ¬c.toNat < 0x20 := fun hn => h.notReserved c hc (Or.inl hn)
  unfold isBlank at hblank
  simp only [Bool.or_eq_true, Bool.and_eq_true, decide_eq_true_eq] at hblank
  refine Char.toNat_inj.1 ?_
  show c.toNat = 0x20
  omega

/-- The beginning of a name is a name, unless it is empty. -/
theorem IsName.ofList {core rest : List Char} (h : IsName text) (htext : text.toList = core ++ rest)
    (hcore : core ≠ []) : IsName (String.ofList core) := by
  have hascii := h.isAscii
  have hlength := h.length_le
  have hhead := h.head_ne
  rw [htext] at hascii hlength hhead
  have hcoreAscii : IsAscii (String.ofList core).toList := by
    rw [String.toList_ofList]
    exact (isAscii_append.1 hascii).1
  refine ⟨hcoreAscii, ?_, ?_, fun c hc => ?_⟩
  · rw [hcoreAscii.utf8ByteSize_eq, String.toList_ofList]
    rw [List.length_append] at hlength
    omega
  · rw [List.head?_append_of_ne_nil _ hcore] at hhead
    rwa [String.toList_ofList]
  · rw [String.toList_ofList] at hc
    exact h.notReserved c (htext ▸ List.mem_append_left rest hc)

/-- The label of a name is shown as the name without the spaces at its end, which is a name too.
Spaces alone are no name, since a name does not start with one. -/
theorem IsName.exists_text (h : IsName text) (hne : text ≠ "") :
    ∃ core n, text.toList = core ++ List.replicate n ' ' ∧ core ≠ [] ∧
      (padded text.toList).text = String.ofList core := by
  obtain ⟨blanks, htext, hblanks, -⟩ := exists_trimEnd_append text.toList
  have hspaces : blanks = List.replicate blanks.length ' ' :=
    List.eq_replicate_of_mem fun c hc =>
      h.eq_space (htext ▸ List.mem_append_right _ hc) (hblanks c hc)
  refine ⟨trimEnd text.toList, blanks.length, hspaces ▸ htext, fun hnil => ?_, ?_⟩
  · rw [hnil, List.nil_append] at htext
    cases blanks with
    | nil => exact hne (String.toList_eq_nil_iff.1 htext)
    | cons c rest =>
      have hc := h.eq_space (htext ▸ List.mem_cons_self) (hblanks c List.mem_cons_self)
      exact h.head_ne (by rw [htext, hc]; rfl)
  · unfold Label.text
    rw [decode_padded h.isAscii h.length_le, List.rightpad, trimEnd_append]
    intro c hc
    rw [List.eq_of_mem_replicate hc]
    decide

/-- A label is read from the text that it is shown as. -/
theorem IsName.parse_text (h : IsName text) (hne : text ≠ "") :
    parse (padded text.toList).text = .ok (padded text.toList) := by
  obtain ⟨core, n, htext, hcore, hshown⟩ := h.exists_text hne
  have hcoreText : String.ofList core ≠ "" := fun hn => hcore (by
    rw [← String.toList_ofList (l := core), hn]
    rfl)
  rw [hshown, parse_eq_ok_iff, nameOf, if_neg hcoreText, String.toList_ofList, htext,
    padded_append_spaces]
  exact ⟨h.ofList htext hcore, rfl⟩

theorem eq_iff_toList_eq {other : Label} : l = other ↔ l.bytes.toList = other.bytes.toList := by
  rw [Vector.toList_inj]
  cases l
  cases other
  exact Label.mk.injEq _ _ ▸ Iff.rfl

/-- **Labels are read exactly.** For every text:

* it is accepted just if it is empty or a name, and the label has its bytes and spaces after them,
  those of NO NAME if it is empty;
* it is refused just for the first reason that speaks against it;
* the label that it names is read again from the text that the label is shown as;
* another text names the same label just if the two differ in spaces at their end, if neither is
  empty. -/
theorem parse_exact :
    (∀ text l, parse text = .ok l ↔ (text = "" ∨ IsName text) ∧
      l.bytes.toList = (nameOf text).toByteArray.data.toList.rightpad 11 0x20) ∧
    (∀ text reason, parse text = .error reason ↔ IsFirstReason text reason) ∧
    (∀ text l, parse text = .ok l → parse l.text = .ok l) ∧
    ∀ s t a b, s ≠ "" → t ≠ "" → parse s = .ok a → parse t = .ok b →
      (a = b ↔ ∃ core m n, s.toList = core ++ List.replicate m ' ' ∧
        t.toList = core ++ List.replicate n ' ') := by
  refine ⟨fun text l => ?_, fun text reason => parse_eq_error_iff, fun text l h => ?_,
    fun s t a b hs ht ha hb => ?_⟩
  · have hname : IsName text ↔ text = "" ∨ IsName text :=
      (or_iff_right_of_imp fun hempty => hempty ▸ isName_empty).symm
    rw [← hname, parse_eq_ok_iff]
    refine and_congr_right fun h => ?_
    rw [eq_iff_toList_eq, h.isName_nameOf.toList_padded]
  · obtain ⟨hname, rfl⟩ := parse_eq_ok_iff.1 h
    refine hname.isName_nameOf.parse_text ?_
    unfold nameOf
    split
    · decide
    · assumption
  · obtain ⟨hsname, rfl⟩ := parse_eq_ok_iff.1 ha
    obtain ⟨htname, rfl⟩ := parse_eq_ok_iff.1 hb
    rw [nameOf, if_neg hs, nameOf, if_neg ht]
    exact padded_eq_iff hsname.isAscii htname.isAscii hsname.length_le htname.length_le

/-- DATA 1 names a label with spaces at its end or without, and is what the label is shown as. Of two
reserved characters the first one is told, and a space at the start before either. -/
theorem parse_exact_data :
    ∃ l, parse "DATA 1" = .ok l ∧ parse "DATA 1   " = .ok l ∧ l.text = "DATA 1" ∧
      parse l.text = .ok l ∧ IsFirstReason "A?*" (.forbidden '?') ∧
      IsFirstReason " ?*" .leadingSpace := by
  obtain ⟨hok, herror, hagain, hsame⟩ := parse_exact
  have hdata : parse "DATA 1" = .ok (padded "DATA 1".toList) :=
    (hok _ _).2 ⟨Or.inr (by decide), by decide⟩
  have hspaces : parse "DATA 1   " = .ok (padded "DATA 1   ".toList) :=
    (hok _ _).2 ⟨Or.inr (by decide), by decide⟩
  have hlabels := (hsame _ _ _ _ (by decide) (by decide) hdata hspaces).2
    ⟨"DATA 1".toList, 0, 3, by decide, by decide⟩
  exact ⟨_, hdata, hlabels ▸ hspaces, by decide, hagain _ _ hdata, (herror _ _).1 rfl,
    (herror _ _).1 rfl⟩

end Label

end FatVolume
