import Mathlib.Data.Prod.Lex
import Mathlib.Order.Monotone.Basic
import FatVolume.Calendar

/-!
# The order of moments

A moment has its place on the clock: its second, counted from the beginning of 1970, and its
microsecond (`Moment.instant`). The place tells moments apart (`instant_injective`), and moments are
ordered by it. It is also the order of the calendar: days are counted through the months and the years
without a gap (`daysBeforeMonth_succ`, `daysBeforeYear_succ`), so that an earlier date has an earlier
day (`unixDay_lt_of_date_lt`).

The number of a volume has the low twelve bits of the second of its creation above twenty bits of the
microsecond (`toNat_volumeId`). Twenty bits hold the microseconds of every second but a leap second.
There the highest bit of the microsecond falls on the lowest one of the second, which is set already,
since a leap second follows an odd one; so the last microseconds of a leap second cannot be told from
the first ones of the second before it (`Moment.IsEchoOf`). With this exception moments less than 4096
seconds apart have different numbers (`volumeId_separates`).
-/

namespace FatVolume

/-- Days of a year. -/
def daysInYear (year : Int) : Nat := if IsLeapYear year then 366 else 365

namespace Moment

/-- The date in the lexicographic order of year, month and day. -/
def date (m : Moment) : ℤ ×ₗ ℕ ×ₗ ℕ := toLex (m.year, toLex (m.month, m.day))

/-- Seconds from the beginning of the day to the second of the moment. -/
def secondOfDay (m : Moment) : ℕ := m.hour * 3600 + m.minute * 60 + m.second

/-- The place of a moment in the calendar: its date, and then its time of day. -/
def calendar (m : Moment) : (ℤ ×ₗ ℕ ×ₗ ℕ) ×ₗ ℕ ×ₗ ℕ := toLex (m.date, toLex (m.secondOfDay, m.micro))

/-- The place of a moment on the clock. -/
def instant (m : Moment) : ℤ ×ₗ ℕ := toLex (m.unixSeconds, m.micro)

/-- The last second of 2016 and the leap second that follows it. -/
def endOf2016 (micro : Fin 2000000) : Moment :=
  { year := 2016, month := 12, day := 31, hour := 23, minute := 59, second := 59, micro
    micro_exists := Or.inr ⟨rfl, micro.isLt⟩ }

/-- The beginning of 2017. -/
def startOf2017 : Moment := (of? 2017 1 1 0 0 0 0).get (by decide)

variable {a b m : Moment} {year other : ℤ} {month : ℕ}

/-- A month without days does not exist. -/
theorem month_exists (m : Moment) : 1 ≤ m.month ∧ m.month ≤ 12 := by
  have hdays := m.day_exists
  unfold daysInMonth at hdays
  split at hdays <;> omega

theorem secondOfDay_lt (m : Moment) : m.secondOfDay < 86400 := by
  have hhour := m.hour_exists
  have hminute := m.minute_exists
  have hsecond := m.second_exists
  unfold secondOfDay
  omega

/-- The second of a moment lies in its day. -/
theorem unixSeconds_eq (m : Moment) : m.unixSeconds = m.unixDay * 86400 + m.secondOfDay := rfl

/-- Hour, minute and second are the digits of the second of the day. -/
theorem time_eq_of_secondOfDay_eq (h : a.secondOfDay = b.secondOfDay) :
    a.hour = b.hour ∧ a.minute = b.minute ∧ a.second = b.second := by
  have ha := a.minute_exists
  have hb := b.minute_exists
  have ha' := a.second_exists
  have hb' := b.second_exists
  unfold secondOfDay at h
  omega

theorem date_eq_iff : a.date = b.date ↔ a.year = b.year ∧ a.month = b.month ∧ a.day = b.day := by
  unfold date
  rw [toLex_inj, Prod.mk.injEq, toLex_inj, Prod.mk.injEq]

/-- Of two dates the year decides, then the month, then the day. -/
theorem date_lt_iff : a.date < b.date ↔
    a.year < b.year ∨ a.year = b.year ∧
      (a.month < b.month ∨ a.month = b.month ∧ a.day < b.day) := by
  unfold date
  rw [Prod.Lex.toLex_lt_toLex, Prod.Lex.toLex_lt_toLex]

/-- After a month its days have passed. -/
theorem daysBeforeMonth_succ (hmonth : 1 ≤ month) :
    daysBeforeMonth year (month + 1) = daysBeforeMonth year month + daysInMonth year month := by
  obtain ⟨k, rfl⟩ := Nat.exists_eq_add_of_le' hmonth
  unfold daysBeforeMonth
  rw [Nat.add_sub_cancel, Nat.add_sub_cancel, List.range_succ, List.map_append, List.sum_append,
    List.map_singleton, List.sum_singleton]

/-- The days of the months are those of the year. -/
theorem daysBeforeMonth_thirteen (year : ℤ) : daysBeforeMonth year 13 = daysInYear year := by
  unfold daysInYear
  by_cases hleap : IsLeapYear year <;>
    simp [daysBeforeMonth, List.range_succ, daysInMonth, hleap]

/-- Later months have more days before them. -/
theorem daysBeforeMonth_le (year : ℤ) {later : ℕ} (h : month ≤ later) :
    daysBeforeMonth year month ≤ daysBeforeMonth year later := by
  refine monotone_nat_of_le_succ (fun month => ?_) h
  cases month with
  | zero => exact Nat.le_refl _
  | succ k => rw [daysBeforeMonth_succ (Nat.succ_pos k)]; exact Nat.le_add_right _ _

theorem daysBeforeYear_succ (year : ℤ) :
    daysBeforeYear (year + 1) = daysBeforeYear year + daysInYear year := by
  unfold daysInYear
  by_cases hleap : IsLeapYear year
  · rw [if_pos hleap]
    unfold IsLeapYear at hleap
    simp only [daysBeforeYear]
    omega
  · rw [if_neg hleap]
    unfold IsLeapYear at hleap
    simp only [daysBeforeYear]
    omega

theorem daysBeforeYear_le (h : year ≤ other) : daysBeforeYear year ≤ daysBeforeYear other :=
  monotone_int_of_le_succ (fun year => by
    rw [daysBeforeYear_succ]
    omega) h

/-- A day of a month comes before the next month begins. -/
theorem day_le_of_month_lt (h : a.month < month) :
    daysBeforeMonth a.year a.month + a.day ≤ daysBeforeMonth a.year month := by
  have hdays := a.day_exists.2
  have hnext := daysBeforeMonth_le a.year (Nat.succ_le_of_lt h)
  rw [Nat.succ_eq_add_one, daysBeforeMonth_succ a.month_exists.1] at hnext
  omega

/-- A day of a year comes before the next year begins. -/
theorem day_le_of_year_lt (h : a.year < other) :
    daysBeforeYear a.year + daysBeforeMonth a.year a.month + a.day ≤ daysBeforeYear other := by
  have hday := day_le_of_month_lt (a := a) (Nat.lt_succ_of_le a.month_exists.2)
  have hnext := daysBeforeYear_le (Int.add_one_le_iff.2 h)
  rw [daysBeforeMonth_thirteen] at hday
  rw [daysBeforeYear_succ] at hnext
  omega

/-- An earlier date has an earlier day. -/
theorem unixDay_lt_of_date_lt (h : a.date < b.date) : a.unixDay < b.unixDay := by
  have hpos := b.day_exists.1
  unfold unixDay
  obtain hyear | ⟨hyear, hmonth | ⟨hmonth, hday⟩⟩ := date_lt_iff.1 h
  · have hday := day_le_of_year_lt hyear
    omega
  · have hday := day_le_of_month_lt hmonth
    rw [← hyear]
    omega
  · rw [← hyear, hmonth]
    omega

/-- Moments with the same date are on the same day. -/
theorem unixDay_eq_of_date_eq (h : a.date = b.date) : a.unixDay = b.unixDay := by
  obtain ⟨hyear, hmonth, hday⟩ := date_eq_iff.1 h
  unfold unixDay
  rw [hyear, hmonth, hday]

/-- A moment that the calendar has earlier is earlier on the clock. -/
theorem instant_lt_of_calendar_lt (h : a.calendar < b.calendar) : a.instant < b.instant := by
  have ha := a.secondOfDay_lt
  have hb := b.secondOfDay_lt
  refine Prod.Lex.toLex_lt_toLex.2 ?_
  dsimp only
  rw [unixSeconds_eq, unixSeconds_eq]
  obtain hdate | ⟨hdate, h⟩ := Prod.Lex.toLex_lt_toLex.1 h
  · have hday := unixDay_lt_of_date_lt hdate
    exact Or.inl (by omega)
  · rw [unixDay_eq_of_date_eq hdate]
    obtain hsecond | ⟨hsecond, hmicro⟩ := Prod.Lex.toLex_lt_toLex.1 h
    · dsimp only at hsecond
      exact Or.inl (by omega)
    · dsimp only at hsecond hmicro
      exact Or.inr ⟨by rw [hsecond], hmicro⟩

theorem calendar_injective : Function.Injective calendar := by
  intro a b h
  obtain ⟨hdate, htime⟩ := Prod.mk.inj (toLex_inj.1 h)
  obtain ⟨hseconds, hmicro⟩ := Prod.mk.inj (toLex_inj.1 htime)
  obtain ⟨hyear, hmonth, hday⟩ := date_eq_iff.1 hdate
  obtain ⟨hhour, hminute, hsecond⟩ := time_eq_of_secondOfDay_eq hseconds
  cases a
  cases b
  simp only at hyear hmonth hday hhour hminute hsecond hmicro
  simp only [hyear, hmonth, hday, hhour, hminute, hsecond, hmicro]

theorem instant_injective : Function.Injective instant := by
  intro a b h
  obtain hlt | heq | hlt := lt_trichotomy a.calendar b.calendar
  · exact absurd h (instant_lt_of_calendar_lt hlt).ne
  · exact calendar_injective heq
  · exact absurd h (instant_lt_of_calendar_lt hlt).ne'

/-- Moments are ordered as they follow one another on the clock. -/
instance : PartialOrder Moment where
  le a b := a.instant ≤ b.instant
  lt a b := a.instant < b.instant
  le_refl m := le_refl m.instant
  le_trans _ _ _ := le_trans
  lt_iff_le_not_ge _ _ := lt_iff_le_not_ge
  le_antisymm _ _ h h' := instant_injective (le_antisymm h h')

/-- The order of moments is that of the calendar: the date decides, then the time of day. -/
theorem le_iff_calendar_le : a ≤ b ↔ a.calendar ≤ b.calendar := by
  constructor
  · intro h
    by_contra hlt
    exact absurd h (not_le.2 (instant_lt_of_calendar_lt (not_le.1 hlt)))
  · intro h
    obtain hlt | heq := h.lt_or_eq
    · exact (instant_lt_of_calendar_lt hlt).le
    · rw [calendar_injective heq]

/-- A moment that is not later than another has an earlier date, or on the same date no later a time
of day. -/
theorem date_lt_or_of_le (h : a ≤ b) :
    a.date < b.date ∨ a.date = b.date ∧ a.secondOfDay ≤ b.secondOfDay := by
  obtain hdate | ⟨hdate, htime⟩ := Prod.Lex.toLex_le_toLex.1 (le_iff_calendar_le.1 h)
  · exact Or.inl hdate
  · exact Or.inr ⟨hdate, Prod.Lex.monotone_fst _ _ htime⟩

/-- A moment that is not later than another has no later a year. -/
theorem year_le_of_le (h : a ≤ b) : a.year ≤ b.year := by
  obtain hdate | ⟨hdate, -⟩ := date_lt_or_of_le h
  · obtain hyear | ⟨hyear, -⟩ := date_lt_iff.1 hdate
    · exact hyear.le
    · exact hyear.le
  · exact (date_eq_iff.1 hdate).1.le

end Moment

namespace Moment

variable {a b m : Moment}

/-- Microseconds from the beginning of 1970. Those of a leap second go on after the end of second 59. -/
def microseconds (m : Moment) : ℤ := m.unixSeconds * 1000000 + m.micro

/-- A moment is so far in a leap second that its microsecond takes more than twenty bits, and another one
has the rest of it as its microsecond, in the same second or 4096 seconds later. -/
def IsEchoOf (leap other : Moment) : Prop :=
  leap.micro = other.micro + 2 ^ 20 ∧
    (other.unixSeconds = leap.unixSeconds ∨ other.unixSeconds = leap.unixSeconds + 4096)

theorem micro_lt (m : Moment) : m.micro < 2 ^ 21 := by
  have hmicro := m.micro_exists
  omega

/-- The second that a leap second is counted as is odd. -/
theorem odd_of_leapSecond (h : 1000000 ≤ m.micro) : m.unixSeconds % 2 = 1 := by
  have hmicro := m.micro_exists
  rw [unixSeconds_eq]
  unfold secondOfDay
  omega

/-- An odd number has its lowest bit. -/
theorem or_one_of_odd {n : ℕ} (h : n % 2 = 1) : n ||| 1 = n := by
  have hbits : n = (n / 2) <<< 1 ||| 1 := by
    rw [← Nat.shiftLeft_add_eq_or_of_lt (by decide), Nat.shiftLeft_eq]
    omega
  rw [hbits, Nat.or_assoc, Nat.or_self]

/-- The number of a volume has twelve bits of the second above twenty bits of the microsecond. -/
theorem toNat_volumeId (m : Moment) :
    m.volumeId.toNat = (m.unixSeconds % 4096).toNat * 2 ^ 20 + m.micro % 2 ^ 20 := by
  have hmicro := m.micro_lt
  have hseconds : (m.unixSeconds % 2 ^ 32).toNat * 2 ^ 20 % 2 ^ 32 =
      (m.unixSeconds % 4096).toNat <<< 20 := by
    rw [Nat.shiftLeft_eq]
    omega
  unfold volumeId
  rw [UInt32.toNat_or, UInt32.toNat_ofNat', UInt32.toNat_ofNat', hseconds,
    Nat.mod_eq_of_lt (by omega), ← Nat.shiftLeft_eq]
  by_cases hlow : m.micro < 2 ^ 20
  · rw [Nat.mod_eq_of_lt hlow, Nat.shiftLeft_add_eq_or_of_lt hlow]
  · have hodd := odd_of_leapSecond (m := m) (by omega)
    have hhigh : m.micro = 1 <<< 20 ||| m.micro % 2 ^ 20 := by
      rw [← Nat.shiftLeft_add_eq_or_of_lt (Nat.mod_lt _ (by decide)), Nat.shiftLeft_eq]
      omega
    have hbit : (m.unixSeconds % 4096).toNat % 2 = 1 := by omega
    calc (m.unixSeconds % 4096).toNat <<< 20 ||| m.micro
        = (m.unixSeconds % 4096).toNat <<< 20 ||| 1 <<< 20 ||| m.micro % 2 ^ 20 := by
          rw [Nat.or_assoc, ← hhigh]
      _ = (m.unixSeconds % 4096).toNat <<< 20 ||| m.micro % 2 ^ 20 := by
          rw [← Nat.shiftLeft_or_distrib, or_one_of_odd hbit]
      _ = (m.unixSeconds % 4096).toNat <<< 20 + m.micro % 2 ^ 20 :=
          (Nat.shiftLeft_add_eq_or_of_lt (Nat.mod_lt _ (by decide)) _).symm

/-- Two numbers of volumes are the same if the low bits of the second and those of the microsecond
are. -/
theorem volumeId_eq_iff : a.volumeId = b.volumeId ↔
    a.unixSeconds % 4096 = b.unixSeconds % 4096 ∧ a.micro % 2 ^ 20 = b.micro % 2 ^ 20 := by
  rw [← UInt32.toNat_inj, toNat_volumeId, toNat_volumeId]
  omega

/-- Two moments less than 4096 seconds apart have the low bits of second and microsecond in common just
if one is an echo of the other. -/
theorem isEchoOf_or_iff (hne : a ≠ b)
    (hnear : (a.microseconds - b.microseconds).natAbs < 4096 * 1000000) :
    a.IsEchoOf b ∨ b.IsEchoOf a ↔
      a.unixSeconds % 4096 = b.unixSeconds % 4096 ∧ a.micro % 2 ^ 20 = b.micro % 2 ^ 20 := by
  have ha := a.micro_exists
  have hb := b.micro_exists
  have hplace : ¬(a.unixSeconds = b.unixSeconds ∧ a.micro = b.micro) := fun h =>
    hne (instant_injective (toLex_inj.2 (Prod.ext h.1 h.2)))
  unfold microseconds at hnear
  unfold IsEchoOf
  omega

/-- **Numbers separate nearby volumes.** Two moments that differ by less than 4096 seconds have
different numbers, unless one of them is so far in a leap second that its microsecond takes more than
twenty bits and the other one has the rest of it as its microsecond, in the same second or 4096
seconds later. -/
theorem volumeId_separates (a b : Moment) (hne : a ≠ b)
    (hnear : (a.microseconds - b.microseconds).natAbs < 4096 * 1000000) :
    a.volumeId = b.volumeId ↔ a.IsEchoOf b ∨ b.IsEchoOf a := by
  rw [volumeId_eq_iff, isEchoOf_or_iff hne hnear]

/-- The last second of 2016 and the leap second after it have a number in common, 1048576 microseconds
apart. The end of the leap second and the beginning of 2017 have different ones. -/
theorem volumeId_separates_leapSecond :
    endOf2016 0 ≠ endOf2016 1048576 ∧
    ((endOf2016 0).microseconds - (endOf2016 1048576).microseconds).natAbs < 4096 * 1000000 ∧
    (endOf2016 0).volumeId = (endOf2016 1048576).volumeId ∧
    ((endOf2016 1999999).microseconds - startOf2017.microseconds).natAbs < 4096 * 1000000 ∧
    (endOf2016 1999999).volumeId ≠ startOf2017.volumeId := by
  have hne : endOf2016 0 ≠ endOf2016 1048576 := by decide
  have hnear : ((endOf2016 0).microseconds - (endOf2016 1048576).microseconds).natAbs <
      4096 * 1000000 := by decide
  have hne' : endOf2016 1999999 ≠ startOf2017 := by decide
  have hnear' : ((endOf2016 1999999).microseconds - startOf2017.microseconds).natAbs <
      4096 * 1000000 := by decide
  refine ⟨hne, hnear, (volumeId_separates _ _ hne hnear).2 (Or.inr ⟨rfl, Or.inl rfl⟩), hnear',
    fun hsame => ?_⟩
  obtain ⟨hmicro, -⟩ | ⟨hmicro, -⟩ := (volumeId_separates _ _ hne' hnear').1 hsame
  · exact absurd hmicro (by decide)
  · exact absurd hmicro (by decide)

end Moment

end FatVolume
