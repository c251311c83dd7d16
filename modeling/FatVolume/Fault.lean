/-!
# Faults of word arithmetic

Sizes and positions are natural numbers here, while the fields of a volume and the addresses of a
device are machine words. Each result that has to stay inside a word passes through a guard, and a
guard that fails is a `Fault`: a breakdown of the computation, kept apart from every refusal that
has a reason in the domain. `Checked` computations can only break down, `Guarded` ones can also be
refused. A `Region` is a range of sectors whose bounds were guarded in this way.

Powers, zeros and the equality of byte strings have instances in the core library and others in
libraries built on it. In this project those of the core library come first, so that a definition
means the same whatever is imported beside it.
-/

attribute [default_instance 20000] instPowNat

namespace FatVolume

attribute [scoped instance (20000)] instPowNat Zero.ofOfNat0 ByteArray.instDecidableEq

/-- A way in which a computation over machine words breaks down. -/
inductive Fault where
  /-- A result lies above or below the range of its word. -/
  | overflow
  /-- A division by zero. -/
  | zeroDivisor
  /-- An access outside of a sequence. -/
  | outOfBounds
  /-- A stated invariant does not hold. -/
  | brokenInvariant
  deriving DecidableEq

/-- The breakdown in words. -/
def Fault.message : Fault → String
  | overflow => "a number left the range of its word"
  | zeroDivisor => "a number was divided by zero"
  | outOfBounds => "a sequence was left"
  | brokenInvariant => "an invariant does not hold"

/-- Why a guarded computation ends without a value. -/
inductive Stop (ε : Type) where
  /-- The computation broke down. -/
  | fault (cause : Fault)
  /-- The computation was refused for a reason of the domain. -/
  | refused (reason : ε)
  deriving DecidableEq

/-- A computation that may break down, and is never refused. -/
abbrev Checked (α : Type) := Except Fault α

/-- A computation that may break down or be refused with a reason in `ε`. -/
abbrev Guarded (ε α : Type) := Except (Stop ε) α

variable {α ε δ : Type}

/-- A breakdown passes through every guarded computation. -/
instance : MonadLift (Except Fault) (Except (Stop ε)) where
  monadLift x := x.mapError .fault

/-- End a guarded computation with a reason. -/
def refuse (reason : ε) : Guarded ε α := .error (.refused reason)

/-- A computation that is only ever refused, as a guarded one. -/
def orRefuse (x : Except ε α) : Guarded ε α := x.mapError .refused

/-- The same stop with its reason seen from a wider domain. -/
def Stop.map (f : ε → δ) : Stop ε → Stop δ
  | .fault cause => .fault cause
  | .refused reason => .refused (f reason)

/-- The same computation with its reason seen from a wider domain. -/
def Guarded.widen (f : ε → δ) (x : Guarded ε α) : Guarded δ α := x.mapError (Stop.map f)

/-- A natural number that fits a word of the given number of bits. -/
def within (bits n : Nat) : Checked Nat :=
  if n < 2 ^ bits then .ok n else .error .overflow

/-- Difference of two words, which must not fall below zero. -/
def minus (a b : Nat) : Checked Nat :=
  if b ≤ a then .ok (a - b) else .error .overflow

/-- Quotient of two words rounded down. -/
def quotient (a b : Nat) : Checked Nat :=
  if b = 0 then .error .zeroDivisor else .ok (a / b)

/-- An invariant the computation relies on. -/
def invariant (p : Prop) [Decidable p] : Checked Unit :=
  if p then .ok () else .error .brokenInvariant

/-- The low 32 bits of a number, all that a 32-bit field keeps of it. -/
def low32 (n : Nat) : Nat := n % 2 ^ 32

/-- Quotient rounded up. -/
def ceilDiv (a b : Nat) : Nat := (a + b - 1) / b

/-- Quotient of two words rounded up. The guard covers the largest number on the way. -/
def roundedQuotient (a b : Nat) : Checked Nat := do
  let top ← within 64 (a + b)
  quotient (top - 1) b

/-- A power of two: the predecessor of a number with one bit has no bit in common with it. -/
def IsPowerOfTwo (n : Nat) : Prop := n ≠ 0 ∧ n &&& (n - 1) = 0

instance (n : Nat) : Decidable (IsPowerOfTwo n) := inferInstanceAs (Decidable (_ ∧ _))

/-- Least multiple of `unit` not below `n`; the unit is a power of two. The mask of a word that
clears the bits below the unit is the negative of the unit. -/
def alignUp (n unit : Nat) : Checked Nat := do
  invariant (IsPowerOfTwo unit)
  let top ← within 64 (n + unit)
  pure ((top - 1) &&& (2 ^ 64 - unit))

/-- A guard lets a number through unchanged or not at all. -/
theorem within_eq_ok_iff {bits n m : Nat} : within bits n = .ok m ↔ n < 2 ^ bits ∧ m = n := by
  unfold within
  split
  · simp_all [eq_comm]
  · simp only [reduceCtorEq, false_iff]
    omega

/-- A difference is returned exactly when it does not fall below zero. -/
theorem minus_eq_ok_iff {a b c : Nat} : minus a b = .ok c ↔ b ≤ a ∧ c = a - b := by
  unfold minus
  split
  · simp_all [eq_comm]
  · simp only [reduceCtorEq, false_iff]
    omega

/-- A range of sectors, both ends included. -/
structure Region where
  /-- The first sector. -/
  first : Nat
  /-- The last sector. -/
  last : Nat
  deriving DecidableEq

namespace Region

/-- The region between two sectors; the last must not precede the first. -/
def between (first last : Nat) : Checked Region := do
  invariant (first ≤ last)
  pure ⟨first, last⟩

/-- The first `count` sectors. -/
def initial (count : Nat) : Checked Region := do
  let last ← minus count 1
  between 0 last

/-- Whether a sector lies in the region. -/
def contains (r : Region) (sector : Nat) : Bool := r.first ≤ sector && sector ≤ r.last

/-- The region as messages show it. -/
def text (r : Region) : String := s!"\x7b{r.first} - {r.last}\x7d"

end Region

end FatVolume
