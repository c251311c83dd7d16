import Mathlib.Data.List.TakeWhile
import FatVolume.Bytes
import FatVolume.Text

/-!
# Lines, blanks, numerals and ASCII texts

Lines are the pieces of a text between line feeds, trimming leaves the part of a line between its
outer blanks (`Text.isTrimmed_iff`), and a decimal numeral is read if its digits stand for a number
of the word (`Numeral.read_ten_eq_ok_iff`).

An ASCII character is one byte, so a text of them has as many bytes as characters
(`IsAscii.utf8ByteSize_eq`), is stored one byte for each (`IsAscii.data_toByteArray`), and is what these
bytes are shown as (`IsAscii.decode_eq`).
-/

namespace FatVolume

namespace Text

/-- All characters of a text are ASCII. -/
def IsAscii (text : List Char) : Prop := ∀ c ∈ text, c.toNat < 0x80

instance (text : List Char) : Decidable (IsAscii text) := List.decidableBAll _ text

/-- The byte of a character below U+0100. -/
def byte (c : Char) : UInt8 := UInt8.ofNat c.toNat

variable {c : Char} {text more : List Char}

theorem toNat_byte (h : c.toNat < 0x80) : (byte c).toNat = c.toNat :=
  UInt8.toNat_ofNat_of_lt' (by simp only [UInt8.size]; omega)

theorem isAscii_append : IsAscii (text ++ more) ↔ IsAscii text ∧ IsAscii more :=
  List.forall_mem_append

theorem utf8EncodeChar_of_lt (h : c.toNat < 0x80) : String.utf8EncodeChar c = [byte c] :=
  if_pos (Nat.le_of_lt_succ h)

/-- ASCII text is encoded byte by byte. -/
theorem IsAscii.flatMap_eq (h : IsAscii text) :
    text.flatMap String.utf8EncodeChar = text.map byte := by
  induction text with
  | nil => rfl
  | cons c rest ih =>
    obtain ⟨hc, hrest⟩ := List.forall_mem_cons.1 h
    rw [List.flatMap_cons, List.map_cons, utf8EncodeChar_of_lt hc, ih hrest, List.singleton_append]

/-- ASCII text is stored byte by byte. -/
theorem IsAscii.data_toByteArray {text : String} (h : IsAscii text.toList) :
    text.toByteArray.data.toList = text.toList.map byte := by
  rw [← String.utf8Encode_toList, List.utf8Encode, h.flatMap_eq, List.data_toByteArray]

/-- ASCII text has a byte for each character. -/
theorem IsAscii.utf8ByteSize_eq {text : String} (h : IsAscii text.toList) :
    text.utf8ByteSize = text.toList.length := by
  show text.toByteArray.data.toList.length = _
  rw [h.data_toByteArray, List.length_map]

/-- ASCII text is what its bytes are shown as. -/
theorem IsAscii.decode_eq (h : IsAscii text) : Utf8.decode (text.map byte) = text := by
  induction text with
  | nil => rfl
  | cons c rest ih =>
    obtain ⟨hc, hrest⟩ := List.forall_mem_cons.1 h
    have hlt : byte c < 0x80 := UInt8.lt_iff_toNat_lt.2 ((toNat_byte hc).symm ▸ hc)
    rw [List.map_cons, Utf8.decode.eq_def]
    dsimp only
    rw [if_pos hlt, toNat_byte hc, Char.ofNat_toNat, ih hrest]

end Text

namespace Text

/-- The pieces of a text are what splitting it at the separator gives. -/
theorem pieces_eq_splitOn (separator : Char) (text : List Char) :
    pieces separator text = text.splitOn separator := by
  induction text with
  | nil => rfl
  | cons c rest ih =>
    rw [pieces, List.splitOn_cons_eq_if_modifyHead, ← ih]
    by_cases hc : c = separator
    · rw [if_pos hc, if_pos (beq_iff_eq.2 hc)]
    · rw [if_neg hc, if_neg (mt beq_iff_eq.1 hc)]
      cases h : pieces separator rest with
      | nil => exact absurd h (pieces_ne_nil separator rest)
      | cons piece others => rfl

/-- A text is what blanks at the ends of a line surround, and neither starts nor ends with one. -/
def IsTrimmed (line text : List Char) : Prop :=
  ∃ before after, line = before ++ (text ++ after) ∧ (∀ c ∈ before ++ after, isBlank c = true) ∧
    (∀ c ∈ text.head?, isBlank c = false) ∧ ∀ c ∈ text.getLast?, isBlank c = false

/-- Blanks before a text that does not start with one are dropped. -/
theorem dropWhile_append_of_blank {blanks text : List Char} (hb : ∀ c ∈ blanks, isBlank c = true)
    (ht : ∀ c ∈ text.head?, isBlank c = false) : (blanks ++ text).dropWhile isBlank = text := by
  rw [List.dropWhile_append_of_pos hb]
  cases text with
  | nil => rfl
  | cons c rest =>
    have hc : isBlank c = false := ht c rfl
    rw [List.dropWhile_cons_of_neg (by rw [hc]; decide)]

/-- Blanks after a text are trimmed with those at its end. -/
theorem trimEnd_append {blanks : List Char} (hb : ∀ c ∈ blanks, isBlank c = true)
    (text : List Char) : trimEnd (text ++ blanks) = trimEnd text := by
  unfold trimEnd
  rw [List.reverse_append, List.dropWhile_append_of_pos fun c hc => hb c (List.mem_reverse.1 hc)]

/-- Blanks after a text that does not end with one are trimmed. -/
theorem trimEnd_append_of_blank {blanks text : List Char} (hb : ∀ c ∈ blanks, isBlank c = true)
    (ht : ∀ c ∈ text.getLast?, isBlank c = false) : trimEnd (text ++ blanks) = text := by
  have hrest : ([] ++ text.reverse).dropWhile isBlank = text.reverse :=
    dropWhile_append_of_blank nofun (by rwa [List.head?_reverse])
  rw [trimEnd_append hb, trimEnd, ← List.nil_append text.reverse, hrest, List.reverse_reverse]

/-- What is left of a text without the blanks before it does not start with one. -/
theorem isBlank_of_mem_head? (text : List Char) {c : Char}
    (h : c ∈ (text.dropWhile isBlank).head?) : isBlank c = false := by
  have hnot := List.head?_dropWhile_not isBlank text
  rw [Option.mem_def.1 h] at hnot
  exact hnot

/-- Trimming the end of a text takes blanks off it, and leaves none at the end. -/
theorem exists_trimEnd_append (text : List Char) :
    ∃ blanks, text = trimEnd text ++ blanks ∧ (∀ c ∈ blanks, isBlank c = true) ∧
      ∀ c ∈ (trimEnd text).getLast?, isBlank c = false := by
  unfold trimEnd
  refine ⟨(text.reverse.takeWhile isBlank).reverse, ?_, fun c hc => ?_, fun c hc => ?_⟩
  · rw [← List.reverse_append, List.takeWhile_append_dropWhile, List.reverse_reverse]
  · exact List.mem_takeWhile_imp (List.mem_reverse.1 hc)
  · rw [List.getLast?_reverse] at hc
    exact isBlank_of_mem_head? _ hc

/-- Trimming a line leaves what its outer blanks surround. -/
theorem isTrimmed_iff {line text : List Char} : IsTrimmed line text ↔ trim line = text := by
  constructor
  · rintro ⟨before, after, rfl, hblanks, hhead, hlast⟩
    obtain ⟨hbefore, hafter⟩ := List.forall_mem_append.1 hblanks
    unfold trim
    cases text with
    | nil =>
      have hall : ((before ++ after) ++ []).dropWhile isBlank = [] :=
        dropWhile_append_of_blank hblanks nofun
      rw [List.nil_append, ← List.append_nil (before ++ after), hall]
      rfl
    | cons c rest =>
      have hdrop : (before ++ (c :: rest ++ after)).dropWhile isBlank = c :: rest ++ after :=
        dropWhile_append_of_blank hbefore hhead
      rw [hdrop, trimEnd_append_of_blank hafter hlast]
  · rintro rfl
    obtain ⟨after, hrest, hafter, hlast⟩ := exists_trimEnd_append (line.dropWhile isBlank)
    refine ⟨line.takeWhile isBlank, after, ?_, ?_, fun c hc => ?_, hlast⟩
    · unfold trim
      rw [← hrest, List.takeWhile_append_dropWhile]
    · exact List.forall_mem_append.2 ⟨fun c hc => List.mem_takeWhile_imp hc, hafter⟩
    · refine isBlank_of_mem_head? line ?_
      rw [hrest, List.head?_append, show (trimEnd _).head? = some c from hc]
      rfl

end Text

namespace Numeral

/-- A text is a decimal numeral for a number: digits, at least one of them, after a plus sign or
without it. -/
def IsDecimal (text : List Char) (n : Nat) : Prop :=
  ∃ digits, (text = digits ∨ text = '+' :: digits) ∧ digits ≠ [] ∧
    (∀ c ∈ digits, c.isDigit = true) ∧ Nat.ofDigitChars 10 digits 0 = n

/-- The decimal digits are the characters from 0 to 9, with their distance from 0 as their value. -/
theorem digitIn_ten (c : Char) :
    digitIn 10 c = if c.isDigit then some (c.toNat - '0'.toNat) else none := by
  have hdigit : c.isDigit = true ↔ '0' ≤ c ∧ c ≤ '9' := by
    unfold Char.isDigit
    rw [Bool.and_eq_true, decide_eq_true_eq, decide_eq_true_eq]
    rfl
  unfold digitIn digitValue
  by_cases hc : '0' ≤ c ∧ c ≤ '9'
  · have hle : c.toNat ≤ 57 := hc.2
    rw [if_pos hc, if_pos (hdigit.2 hc), Option.filter_some]
    exact if_pos (decide_eq_true (by omega))
  · rw [if_neg hc, if_neg (mt hdigit.1 hc)]
    split
    · have hle : 97 ≤ c.toNat := (‹_ ∧ _› : 'a' ≤ c ∧ c ≤ 'f').1
      rw [Option.filter_some]
      exact if_neg (by rw [decide_eq_true_eq]; omega)
    · split
      · have hle : 65 ≤ c.toNat := (‹_ ∧ _› : 'A' ≤ c ∧ c ≤ 'F').1
        rw [Option.filter_some]
        exact if_neg (by rw [decide_eq_true_eq]; omega)
      · rfl

/-- Further digits make a number no smaller. -/
theorem le_ofDigitChars (digits : List Char) (value : Nat) :
    value ≤ Nat.ofDigitChars 10 digits value := by
  rw [Nat.ofDigitChars_eq_ofDigitChars_zero]
  exact Nat.le_add_right_of_le (Nat.le_mul_of_pos_left value (Nat.pow_pos (by decide)))

/-- A number is extended by decimal digits as long as it stays in its word. -/
theorem extend_ten_eq_ok_iff {bits value n : Nat} {digits : List Char} (h : value < 2 ^ bits) :
    extend 10 bits value digits = .ok n ↔
      (∀ c ∈ digits, c.isDigit = true) ∧ Nat.ofDigitChars 10 digits value = n ∧ n < 2 ^ bits := by
  induction digits generalizing value with
  | nil =>
    rw [extend, Nat.ofDigitChars_nil, Except.ok.injEq]
    refine ⟨?_, fun hn => hn.2.1⟩
    rintro rfl
    exact ⟨List.forall_mem_nil _, rfl, h⟩
  | cons c rest ih =>
    rw [extend, digitIn_ten, List.forall_mem_cons, Nat.ofDigitChars_cons]
    by_cases hc : c.isDigit = true
    · rw [if_pos hc, Nat.mul_comm 10 value]
      dsimp only
      by_cases hlt : value * 10 + (c.toNat - '0'.toNat) < 2 ^ bits
      · rw [if_pos hlt, ih hlt, and_iff_right hc]
      · rw [if_neg hlt]
        refine iff_of_false (fun herror => by cases herror) fun hn => hlt ?_
        exact Nat.lt_of_le_of_lt (le_ofDigitChars rest _) (hn.2.1 ▸ hn.2.2)
    · rw [if_neg hc]
      exact iff_of_false (fun herror => by cases herror) fun hn => hc hn.1.1

/-- After a plus sign a decimal numeral has its digits. -/
theorem isDecimal_plus_iff {digits : List Char} {n : Nat} :
    IsDecimal ('+' :: digits) n ↔ digits ≠ [] ∧ (∀ c ∈ digits, c.isDigit = true) ∧
      Nat.ofDigitChars 10 digits 0 = n := by
  constructor
  · rintro ⟨others, rfl | h, hdigits⟩
    · exact absurd (hdigits.2.1 '+' List.mem_cons_self) (by decide)
    · cases h
      exact hdigits
  · exact fun h => ⟨digits, Or.inr rfl, h⟩

/-- Without a plus sign a decimal numeral is its digits. -/
theorem isDecimal_iff_of_ne {text : List Char} {n : Nat} (h : ∀ digits, text ≠ '+' :: digits) :
    IsDecimal text n ↔ text ≠ [] ∧ (∀ c ∈ text, c.isDigit = true) ∧
      Nat.ofDigitChars 10 text 0 = n := by
  constructor
  · rintro ⟨digits, rfl | hplus, hdigits⟩
    · exact hdigits
    · exact absurd hplus (h digits)
  · exact fun hdigits => ⟨text, Or.inl rfl, hdigits⟩

/-- A text is read as a number of the word just if it is a decimal numeral for it. -/
theorem read_ten_eq_ok_iff {bits n : Nat} {text : List Char} :
    read 10 bits text = .ok n ↔ IsDecimal text n ∧ n < 2 ^ bits := by
  have hextend : ∀ digits, extend 10 bits 0 digits = .ok n ↔ (∀ c ∈ digits, c.isDigit = true) ∧
      Nat.ofDigitChars 10 digits 0 = n ∧ n < 2 ^ bits := fun digits =>
    extend_ten_eq_ok_iff (Nat.two_pow_pos bits)
  unfold read
  split
  · rw [isDecimal_iff_of_ne (by nofun)]
    exact iff_of_false nofun fun h => h.1.1 rfl
  · rw [isDecimal_plus_iff]
    exact iff_of_false nofun fun h => h.1.1 rfl
  · rename_i digits hne
    rw [isDecimal_plus_iff, hextend, and_assoc, and_assoc, and_iff_right hne]
  · rename_i hnil hsign hplus
    rw [isDecimal_iff_of_ne hplus, hextend, and_assoc, and_assoc, and_iff_right hnil]

end Numeral

end FatVolume
