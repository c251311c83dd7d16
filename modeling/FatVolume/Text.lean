import FatVolume.Fault

/-!
# Texts

The white space of Unicode, the lines of a text and its other pieces, and the forms in which
messages show bytes, numbers, sizes, single characters and the causes of a failure.

Bytes on a volume need not be text. They are shown as UTF-8, with one replacement character for
each maximal piece that begins like a character and is not one.

Unsigned numbers are read in a radix up to 16 within the range of a word. One leading plus sign is
part of a numeral, a minus sign never is. Digits are taken from the left, so the first one that is
no digit or leaves the range decides the error.
-/

namespace FatVolume

namespace Text

/-- A character of the Unicode property `White_Space`. -/
def isBlank (c : Char) : Bool :=
  let n := c.toNat
  (0x09 ≤ n && n ≤ 0x0D) || n = 0x20 || n = 0x85 || n = 0xA0 || n = 0x1680 ||
    (0x2000 ≤ n && n ≤ 0x200A) || n = 0x2028 || n = 0x2029 || n = 0x202F || n = 0x205F ||
    n = 0x3000

/-- A text without the blanks at its end. -/
def trimEnd (text : List Char) : List Char := (text.reverse.dropWhile isBlank).reverse

/-- A text without the blanks at its two ends. -/
def trim (text : List Char) : List Char := trimEnd (text.dropWhile isBlank)

/-- The pieces of a text between separators; there is always at least one. -/
def pieces (separator : Char) : List Char → List (List Char)
  | [] => [[]]
  | c :: rest =>
    if c = separator then [] :: pieces separator rest
    else match pieces separator rest with
      | [] => [[c]]
      | piece :: others => (c :: piece) :: others

/-- The lines of a text, which line feeds separate. -/
def lines (text : List Char) : List (List Char) := pieces '\n' text

/-- Every text has a piece. -/
theorem pieces_ne_nil (separator : Char) (text : List Char) : pieces separator text ≠ [] := by
  cases text with
  | nil => simp [pieces]
  | cons c rest =>
    rw [pieces]
    split
    · simp
    · split <;> simp

end Text

namespace Utf8

/-- The character that stands for bytes that are no text. -/
def replacement : Char := Char.ofNat 0xFFFD

/-- A byte between two bounds, both included. -/
def between (low high : Nat) (b : UInt8) : Bool := low ≤ b.toNat && b.toNat ≤ high

/-- A byte that continues a character. -/
def continues (b : UInt8) : Bool := between 0x80 0xBF b

/-- The six low bits of a continuing byte. -/
def payload (b : UInt8) : Nat := b.toNat % 64

/-- Bounds of the second byte of a three byte character that starts with `a`; they leave out
overlong forms and surrogates. -/
def second3 (a : UInt8) : Nat × Nat :=
  if a = 0xE0 then (0xA0, 0xBF) else if a = 0xED then (0x80, 0x9F) else (0x80, 0xBF)

/-- Bounds of the second byte of a four byte character that starts with `a`; they leave out
overlong forms and everything above U+10FFFF. -/
def second4 (a : UInt8) : Nat × Nat :=
  if a = 0xF0 then (0x90, 0xBF) else if a = 0xF4 then (0x80, 0x8F) else (0x80, 0xBF)

/-- The characters of a byte string, with replacements for what is not UTF-8. -/
def decode : List UInt8 → List Char
  | [] => []
  | a :: rest =>
    if a < 0x80 then Char.ofNat a.toNat :: decode rest
    else if between 0xC2 0xDF a then
      match rest with
      | b :: rest =>
        if continues b then Char.ofNat (a.toNat % 32 * 64 + payload b) :: decode rest
        else replacement :: decode (b :: rest)
      | [] => [replacement]
    else if between 0xE0 0xEF a then
      match rest with
      | b :: rest =>
        if between (second3 a).1 (second3 a).2 b then
          match rest with
          | c :: rest =>
            if continues c then
              Char.ofNat (a.toNat % 16 * 4096 + payload b * 64 + payload c) :: decode rest
            else replacement :: decode (c :: rest)
          | [] => [replacement]
        else replacement :: decode (b :: rest)
      | [] => [replacement]
    else if between 0xF0 0xF4 a then
      match rest with
      | b :: rest =>
        if between (second4 a).1 (second4 a).2 b then
          match rest with
          | c :: rest =>
            if continues c then
              match rest with
              | d :: rest =>
                if continues d then
                  Char.ofNat (a.toNat % 8 * 262144 + payload b * 4096 + payload c * 64
                    + payload d) :: decode rest
                else replacement :: decode (d :: rest)
              | [] => [replacement]
            else replacement :: decode (c :: rest)
          | [] => [replacement]
        else replacement :: decode (b :: rest)
      | [] => [replacement]
    else replacement :: decode rest

end Utf8

/-- Why a text is not a numeral. -/
inductive NumeralError where
  /-- There is no text at all. -/
  | empty
  /-- A character is no digit of the radix, or a sign stands alone. -/
  | badDigit
  /-- The number lies above the range of its word. -/
  | tooLarge
  deriving DecidableEq

/-- The reason in words. -/
def NumeralError.message : NumeralError → String
  | .empty => "cannot parse integer from empty string"
  | .badDigit => "invalid digit found in string"
  | .tooLarge => "number too large to fit in target type"

namespace Numeral

/-- Value of a decimal or hexadecimal digit. -/
def digitValue (c : Char) : Option Nat :=
  if '0' ≤ c ∧ c ≤ '9' then some (c.toNat - 48)
  else if 'a' ≤ c ∧ c ≤ 'f' then some (c.toNat - 87)
  else if 'A' ≤ c ∧ c ≤ 'F' then some (c.toNat - 55)
  else none

/-- Value of a digit below the radix. -/
def digitIn (radix : Nat) (c : Char) : Option Nat :=
  (digitValue c).filter (· < radix)

/-- Extend a value below `2 ^ bits` by further digits. -/
def extend (radix bits : Nat) : Nat → List Char → Except NumeralError Nat
  | value, [] => .ok value
  | value, c :: rest =>
    match digitIn radix c with
    | none => .error .badDigit
    | some digit =>
      let longer := value * radix + digit
      if longer < 2 ^ bits then extend radix bits longer rest else .error .tooLarge

/-- Read an unsigned number below `2 ^ bits`. -/
def read (radix bits : Nat) : List Char → Except NumeralError Nat
  | [] => .error .empty
  | ['+'] => .error .badDigit
  | '+' :: digits => extend radix bits 0 digits
  | digits => extend radix bits 0 digits

/-- Hexadecimal digits in lower case. -/
def hex (n : Nat) : String := String.ofList (Nat.toDigits 16 n)

/-- Hexadecimal digits in upper case, filled with zeros to a least width. -/
def hexUpper (width n : Nat) : String :=
  let digits := (Nat.toDigits 16 n).map Char.toUpper
  String.ofList (List.replicate (width - digits.length) '0' ++ digits)

end Numeral

namespace Text

/-- What stands between the apostrophes. -/
def escaped (c : Char) : String :=
  match c with
  | '\x00' => "\\0"
  | '\t' => "\\t"
  | '\r' => "\\r"
  | '\n' => "\\n"
  | '\\' => "\\\\"
  | '\'' => "\\'"
  | c =>
    if ' ' ≤ c ∧ c ≤ '~' then c.toString
    else "\\u\x7b" ++ Numeral.hex c.toNat ++ "\x7d"

/-- An ASCII character as messages show it. -/
def quoted (c : Char) : String := "'" ++ escaped c ++ "'"

end Text

namespace Text

/-- A number of bytes in the largest binary unit of which there is one, rounded down. -/
def size (bytes : Nat) : String :=
  if bytes < 2 ^ 10 then s!"{bytes} B"
  else if bytes < 2 ^ 20 then s!"{bytes / 2 ^ 10} KiB"
  else if bytes < 2 ^ 30 then s!"{bytes / 2 ^ 20} MiB"
  else if bytes < 2 ^ 40 then s!"{bytes / 2 ^ 30} GiB"
  else s!"{bytes / 2 ^ 40} TiB"

end Text

namespace Text

/-- A text whose further lines start with so many spaces. -/
def hanging (indent : Nat) (text : String) : String :=
  String.intercalate ("\n" ++ String.ofList (List.replicate indent ' '))
    ((lines text.toList).map String.ofList)

/-- One of several causes, behind its number. -/
def numberedCause (cause : String) (number : Nat) : String :=
  let digits := toString number
  "\n" ++ String.ofList (List.replicate (5 - digits.length) ' ') ++ digits ++ ": " ++
    hanging 7 cause

/-- The causes below their heading. -/
def causes : List String → String
  | [] => ""
  | [cause] => "\n\nCaused by:\n    " ++ hanging 4 cause
  | several =>
    "\n\nCaused by:" ++ String.join (several.zipIdx.map fun (cause, n) => numberedCause cause n)

/-- A failure with its causes. -/
def failure (headline : String) (chain : List String) : String :=
  "Error: " ++ headline ++ causes chain

end Text

end FatVolume
