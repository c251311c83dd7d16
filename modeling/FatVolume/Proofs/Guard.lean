import Mathlib.Algebra.Order.Floor.Div
import Mathlib.Tactic.Linarith
import Mathlib.Data.List.Forall2
import FatVolume.Attempt
import FatVolume.Fault

/-!
# Guarded computations

A guarded computation runs through when each of its guards does. The equations of this module open
one guard at a time: those of sequencing, which simplification uses, and one for every guard, under
the condition that it holds. What a computation does on success is read off with `bind_eq_ok_iff`,
and where it stops with `bind_eq_error_iff`.

Areas of a volume are whole sectors, and whole clusters where they are aligned, so many quotients are
rounded up.
-/

namespace FatVolume

/-- Quotients of numbers are rounded up as everywhere. -/
theorem ceilDiv_eq (a b : Nat) : ceilDiv a b = a ⌈/⌉ b := (Nat.ceilDiv_eq_add_pred_div a b).symm

/-- Rounding up adds less than a divisor. -/
theorem ceilDiv_mul_lt (a : Nat) {b : Nat} (hb : 0 < b) : ceilDiv a b * b < a + b := by
  have h := Nat.div_mul_le_self (a + b - 1) b
  unfold ceilDiv
  omega

/-- Rounding up a bound gives the least multiple on the far side of the bound. -/
theorem isLeast_ceilDiv_mul {P : Nat → Prop} {a b : Nat} (hb : 0 < b) (hP : ∀ n, P n ↔ a ≤ n) :
    IsLeast {n | b ∣ n ∧ P n} (ceilDiv a b * b) := by
  rw [ceilDiv_eq, Nat.mul_comm]
  refine ⟨⟨Nat.dvd_mul_right b _, (hP _).2 ((gc_mul_ceilDiv hb).le_u_l a)⟩, ?_⟩
  rintro n ⟨⟨k, rfl⟩, hn⟩
  exact Nat.mul_le_mul_left b ((ceilDiv_le_iff_le_mul hb).2 ((hP _).1 hn))

/-- A divisor more makes the quotient one larger. -/
theorem ceilDiv_add_right (a : Nat) {b : Nat} (hb : 0 < b) : ceilDiv (a + b) b = ceilDiv a b + 1 := by
  unfold ceilDiv
  rw [show a + b + b - 1 = a + b - 1 + b by omega, Nat.add_div_right _ hb]

/-- A number with a remainder is rounded up to the next quotient. -/
theorem ceilDiv_eq_div_add_one {a b : Nat} (hb : 0 < b) (h : a % b ≠ 0) :
    ceilDiv a b = a / b + 1 := by
  have hsplit := Nat.div_add_mod a b
  have hrest := Nat.mod_lt a hb
  rw [ceilDiv_eq]
  apply Nat.le_antisymm
  · rw [ceilDiv_le_iff_le_mul hb, Nat.mul_add]
    omega
  · by_contra hlt
    have hle : a ≤ b * (a / b) := (ceilDiv_le_iff_le_mul hb).1 (Nat.lt_succ_iff.1 (not_le.1 hlt))
    omega

theorem ceilDiv_le_self (a : Nat) {b : Nat} (hb : 0 < b) : ceilDiv a b ≤ a := by
  rw [ceilDiv_eq, ceilDiv_le_iff_le_mul hb]
  exact Nat.le_mul_of_pos_left a hb

theorem ceilDiv_mul_of_dvd {a b : Nat} (hb : 0 < b) (h : b ∣ a) : ceilDiv a b * b = a := by
  obtain ⟨n, rfl⟩ := h
  rw [ceilDiv_eq, ← smul_eq_mul b, smul_ceilDiv hb, smul_eq_mul, Nat.mul_comm]

/-- The bits tell a power of two. -/
theorem isPowerOfTwo_iff {n : Nat} : IsPowerOfTwo n ↔ n.isPowerOfTwo :=
  Nat.ne_zero_and_sub_one_eq_zero_iff_isPowerOfTwo

theorem IsPowerOfTwo.pos {n : Nat} (h : IsPowerOfTwo n) : 0 < n := Nat.pos_of_ne_zero h.1

theorem IsPowerOfTwo.dvd_of_le {m n : Nat} (hm : IsPowerOfTwo m) (hn : IsPowerOfTwo n)
    (h : m ≤ n) : m ∣ n := by
  obtain ⟨j, rfl⟩ := isPowerOfTwo_iff.1 hm
  obtain ⟨k, rfl⟩ := isPowerOfTwo_iff.1 hn
  exact Nat.pow_dvd_pow 2 ((Nat.pow_le_pow_iff_right (by decide)).1 h)

/-- Masking a word with the negative of a power of two leaves its multiple below. -/
theorem land_neg_of_isPowerOfTwo {n unit : Nat} (h : IsPowerOfTwo unit) (hn : n < 2 ^ 64)
    (hunit : unit ≤ 2 ^ 64) : n &&& (2 ^ 64 - unit) = n / unit * unit := by
  obtain ⟨k, rfl⟩ := isPowerOfTwo_iff.1 h
  have hk : k ≤ 64 := (Nat.pow_le_pow_iff_right (by decide)).1 hunit
  have hmask : 2 ^ 64 - 2 ^ k = 2 ^ k * (2 ^ (64 - k) - 1) := by
    rw [Nat.mul_sub, Nat.mul_one, ← Nat.pow_add, Nat.add_sub_cancel' hk]
  have hmod : (n &&& (2 ^ 64 - 2 ^ k)) % 2 ^ k = 0 := by
    rw [Nat.and_mod_two_pow, hmask, Nat.mul_mod_right, Nat.and_zero]
  have hdiv : (n &&& (2 ^ 64 - 2 ^ k)) / 2 ^ k = n / 2 ^ k := by
    rw [Nat.and_div_two_pow, hmask, Nat.mul_div_cancel_left _ (Nat.two_pow_pos k),
      Nat.and_two_pow_sub_one_eq_mod, Nat.mod_eq_of_lt]
    rwa [Nat.div_lt_iff_lt_mul (Nat.two_pow_pos k), ← Nat.pow_add, Nat.sub_add_cancel hk]
  rw [← Nat.div_add_mod (n &&& (2 ^ 64 - 2 ^ k)) (2 ^ k), hmod, hdiv, Nat.add_zero, Nat.mul_comm]

variable {α β ε δ : Type}

@[simp] theorem ok_bind (a : α) (f : α → Except ε β) : (Except.ok a >>= f) = f a := rfl

@[simp] theorem error_bind (e : ε) (f : α → Except ε β) :
    ((Except.error e : Except ε α) >>= f) = .error e := rfl

@[simp] theorem pure_eq_ok (a : α) : (pure a : Except ε α) = .ok a := rfl

@[simp] theorem throw_eq_error (e : ε) : (throw e : Except ε α) = .error e := rfl

@[simp] theorem refuse_bind (reason : ε) (f : α → Guarded ε β) :
    ((refuse reason : Guarded ε α) >>= f) = refuse reason := rfl

@[simp] theorem refuse_ne_ok (reason : ε) (a : α) : (refuse reason : Guarded ε α) ≠ .ok a := nofun

@[simp] theorem refuse_ne_fault (reason : ε) (cause : Fault) :
    (refuse reason : Guarded ε α) ≠ .error (.fault cause) := nofun

@[simp] theorem liftM_ok (a : α) :
    (liftM (Except.ok a : Checked α) : Guarded ε α) = .ok a := rfl

@[simp] theorem liftM_error (cause : Fault) :
    (liftM (Except.error cause : Checked α) : Guarded ε α) = .error (.fault cause) := rfl

@[simp] theorem orRefuse_ok (a : α) : orRefuse (Except.ok a : Except ε α) = .ok a := rfl

@[simp] theorem orRefuse_error (e : ε) :
    orRefuse (Except.error e : Except ε α) = .error (.refused e) := rfl

@[simp] theorem widen_ok (f : ε → δ) (a : α) :
    Guarded.widen f (Except.ok a : Guarded ε α) = .ok a := rfl

@[simp] theorem widen_error (f : ε → δ) (s : Stop ε) :
    Guarded.widen f (Except.error s : Guarded ε α) = .error (s.map f) := rfl

/-- A sequence succeeds when both of its parts do. -/
theorem bind_eq_ok_iff {x : Except ε α} {f : α → Except ε β} {b : β} :
    x >>= f = .ok b ↔ ∃ a, x = .ok a ∧ f a = .ok b := by
  cases x with
  | error e => simp
  | ok a => simp

/-- A lifted computation succeeds when the computation does. -/
theorem liftM_eq_ok_iff {x : Checked α} {a : α} :
    (liftM x : Guarded ε α) = .ok a ↔ x = .ok a := by
  cases x <;> simp

/-- A computation that can only be refused succeeds as a guarded one when it does. -/
theorem orRefuse_eq_ok_iff {x : Except ε α} {a : α} : orRefuse x = .ok a ↔ x = .ok a := by
  cases x <;> simp

/-- A wider domain of reasons does not change success. -/
theorem widen_eq_ok_iff {f : ε → δ} {x : Guarded ε α} {a : α} :
    Guarded.widen f x = .ok a ↔ x = .ok a := by
  cases x <;> simp

/-- A check is followed by a computation that succeeds if both do. -/
theorem check_bind_eq_ok_iff {x : Except ε Unit} {f : Unit → Except ε β} {b : β} :
    x >>= f = .ok b ↔ x = .ok () ∧ f () = .ok b := by
  cases x <;> simp

/-- A condition without which a computation is refused. -/
theorem unless_refuse_eq_ok_iff {p : Prop} [Decidable p] {reason : ε} {x : Guarded ε α} {a : α} :
    (if p then x else refuse reason) = .ok a ↔ p ∧ x = .ok a := by
  split <;> simp [*]

/-- A condition under which a computation is refused. -/
theorem if_refuse_eq_ok_iff {p : Prop} [Decidable p] {reason : ε} {x : Guarded ε α} {a : α} :
    (if p then refuse reason else x) = .ok a ↔ ¬p ∧ x = .ok a := by
  split <;> simp [*]

/-- A sequence stops where its first part does, or where its second part does. -/
theorem bind_eq_error_iff {x : Except ε α} {f : α → Except ε β} {e : ε} :
    x >>= f = .error e ↔ x = .error e ∨ ∃ a, x = .ok a ∧ f a = .error e := by
  cases x with
  | error e' => simp
  | ok a => simp

/-- A list is gone through with success just if every member is. -/
theorem mapM_eq_ok_iff {f : α → Except ε β} {xs : List α} {ys : List β} :
    xs.mapM f = .ok ys ↔ List.Forall₂ (fun x y => f x = .ok y) xs ys := by
  induction xs generalizing ys with
  | nil =>
    rw [List.mapM_nil, List.forall₂_nil_left_iff]
    exact ⟨fun h => (Except.ok.inj h).symm, fun h => congrArg Except.ok h.symm⟩
  | cons x xs ih =>
    rw [List.mapM_cons, bind_eq_ok_iff, List.forall₂_cons_left_iff]
    refine exists_congr fun y => ?_
    simp only [bind_eq_ok_iff, ih]
    constructor
    · rintro ⟨hx, zs, hzs, hys⟩
      exact ⟨zs, hx, hzs, (Except.ok.inj hys).symm⟩
    · rintro ⟨zs, hx, hzs, rfl⟩
      exact ⟨hx, zs, hzs, rfl⟩

/-- A list is gone through up to the first member that fails. -/
theorem mapM_eq_error_iff {f : α → Except ε β} {xs : List α} {e : ε} :
    xs.mapM f = .error e ↔ ∃ before x after, xs = before ++ x :: after ∧
      (∀ b ∈ before, ∃ y, f b = .ok y) ∧ f x = .error e := by
  induction xs with
  | nil =>
    refine iff_of_false nofun ?_
    rintro ⟨before, x, after, hnil, -⟩
    exact List.append_ne_nil_of_right_ne_nil before (List.cons_ne_nil x after) hnil.symm
  | cons x xs ih =>
    rw [List.mapM_cons, bind_eq_error_iff]
    have hrest : ∀ y, (do let ys ← xs.mapM f; pure (y :: ys)) = .error e ↔ xs.mapM f = .error e :=
      fun y => by cases xs.mapM f <;> simp
    simp only [hrest]
    constructor
    · rintro (hx | ⟨y, hy, hxs⟩)
      · exact ⟨[], x, xs, rfl, nofun, hx⟩
      · obtain ⟨before, z, after, rfl, hbefore, hz⟩ := ih.1 hxs
        exact ⟨x :: before, z, after, rfl, List.forall_mem_cons.2 ⟨⟨y, hy⟩, hbefore⟩, hz⟩
    · rintro ⟨before, z, after, hsplit, hbefore, hz⟩
      cases before with
      | nil =>
        cases hsplit
        exact Or.inl hz
      | cons b before =>
        cases hsplit
        obtain ⟨⟨y, hy⟩, hbefore⟩ := List.forall_mem_cons.1 hbefore
        exact Or.inr ⟨y, hy, ih.2 ⟨before, z, after, rfl, hbefore, hz⟩⟩

/-- A computation with a wider domain of reasons stops where the computation does. -/
theorem widen_eq_error_iff {f : ε → δ} {x : Guarded ε α} {stop : Stop δ} :
    Guarded.widen f x = .error stop ↔ ∃ inner, x = .error inner ∧ stop = inner.map f := by
  cases x <;> simp [eq_comm]

/-- A checked computation stops a guarded one by a breakdown. -/
theorem liftM_eq_error_iff {x : Checked α} {stop : Stop ε} :
    (liftM x : Guarded ε α) = .error stop ↔ ∃ cause, x = .error cause ∧ stop = .fault cause := by
  cases x <;> simp [eq_comm]

/-- A result that is there is the result. -/
theorem eq_ok_of_toOption {ε α : Type} {x : Except ε α} {a : α} (h : x.toOption = some a) :
    x = .ok a := by
  cases x with
  | error e => cases h
  | ok b => exact congrArg Except.ok (Option.some.inj h)

/-- A computation that can only be refused never breaks down. -/
theorem orRefuse_ne_fault (x : Except ε α) (cause : Fault) :
    orRefuse x ≠ .error (.fault cause) := by
  cases x with
  | error e => nofun
  | ok a => nofun

theorem within_of_lt {bits n : Nat} (h : n < 2 ^ bits) : within bits n = .ok n :=
  within_eq_ok_iff.2 ⟨h, rfl⟩

/-- A number outside of the range of its word overflows. -/
theorem within_eq_error_iff {bits n : Nat} {cause : Fault} :
    within bits n = .error cause ↔ 2 ^ bits ≤ n ∧ cause = .overflow := by
  unfold within
  by_cases h : n < 2 ^ bits
  · rw [if_pos h]
    exact iff_of_false nofun fun hn => Nat.not_lt.2 hn.1 h
  · rw [if_neg h, Except.error.injEq, and_iff_right (Nat.not_lt.1 h), eq_comm]

theorem minus_of_le {a b : Nat} (h : b ≤ a) : minus a b = .ok (a - b) := minus_eq_ok_iff.2 ⟨h, rfl⟩

theorem quotient_of_pos {a b : Nat} (h : 0 < b) : quotient a b = .ok (a / b) := by
  unfold quotient
  rw [if_neg (Nat.ne_of_gt h)]

theorem invariant_of {p : Prop} [Decidable p] (h : p) : invariant p = .ok () := by
  unfold invariant
  rw [if_pos h]

/-- A rounded quotient passes when its numbers fit a word. -/
theorem roundedQuotient_of_pos {a b : Nat} (h : 0 < b) (hab : a + b < 2 ^ 64) :
    roundedQuotient a b = .ok (ceilDiv a b) := by
  unfold roundedQuotient
  rw [within_of_lt hab, ok_bind, quotient_of_pos h]
  rfl

/-- Rounding up to a power of two passes when its numbers fit a word. -/
theorem alignUp_of_isPowerOfTwo {n unit : Nat} (h : IsPowerOfTwo unit) (hn : n + unit < 2 ^ 64) :
    alignUp n unit = .ok (ceilDiv n unit * unit) := by
  have hpos := h.pos
  unfold alignUp ceilDiv
  rw [invariant_of h, ok_bind, within_of_lt hn, ok_bind,
    land_neg_of_isPowerOfTwo h (by omega) (by omega), pure_eq_ok]

/-- The first sectors of a volume are a region if there are any. -/
theorem Region.initial_of_pos {n : Nat} (h : 0 < n) : Region.initial n = .ok ⟨0, n - 1⟩ := by
  unfold initial between
  rw [minus_of_le h, ok_bind, invariant_of (Nat.zero_le _)]
  rfl

/-- The first sectors of a volume are those with a number below theirs. -/
theorem Region.contains_initial_iff {n sector : Nat} (h : 0 < n) :
    Region.contains ⟨0, n - 1⟩ sector = true ↔ sector < n := by
  unfold contains
  rw [Bool.and_eq_true, decide_eq_true_eq, decide_eq_true_eq]
  dsimp only
  omega

theorem low32_of_lt {n : Nat} (h : n < 2 ^ 32) : low32 n = n := Nat.mod_eq_of_lt h

namespace Attempt

/-- A guarded computation is its own outcome. -/
@[simp] theorem outcome_liftM (x : Guarded ε α) : (liftM x : Attempt ε α).outcome = x := rfl

/-- A checked computation is its own outcome. -/
@[simp] theorem outcome_liftM_checked (x : Checked α) :
    (liftM x : Attempt ε α).outcome = liftM x := rfl

/-- A wider domain of reasons widens the outcome. -/
@[simp] theorem outcome_widen (f : ε → δ) (x : Attempt ε α) :
    (x.widen f).outcome = Guarded.widen f x.outcome := rfl

/-- Attempts follow one another as computations do. -/
instance : LawfulMonad (Attempt ε) := LawfulMonad.mk' (Attempt ε)
  (fun x => by
    obtain ⟨warnings, outcome⟩ := x
    cases outcome with
    | error stop => rfl
    | ok a => exact congrArg (Attempt.mk · _) (List.append_nil warnings))
  (fun _ _ => rfl)
  (fun x f g => by
    obtain ⟨warnings, outcome⟩ := x
    cases outcome with
    | error stop => rfl
    | ok a =>
      cases h : f a with
      | mk second outcome =>
        show andThen (andThen ⟨warnings, .ok a⟩ f) g =
          andThen ⟨warnings, .ok a⟩ fun a => andThen (f a) g
        cases outcome with
        | error stop => simp only [andThen, h]
        | ok b => simp only [andThen, h, List.append_assoc])

/-- Warnings that depend on a condition do not change the outcome. -/
theorem outcome_warn_if {p : Prop} [Decidable p] (warnings : List Warning) (x : Attempt ε α) :
    (if p then warn warnings >>= fun _ => x else x).outcome = x.outcome := by
  split <;> simp

end Attempt

end FatVolume
