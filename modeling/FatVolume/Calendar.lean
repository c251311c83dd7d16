import FatVolume.Fault

/-!
# Moments, stamps and clocks

A moment is a date of the proleptic Gregorian calendar with a time of day to the microsecond. A
leap second is the second 59 with a million microseconds and more. `unixSeconds` counts the
seconds from the beginning of 1970, and `Moment.ofUnix?` turns it around on all moments outside of
leap seconds. A stamp is the packed time and date of a directory entry, and the number of a volume
is derived from the moment of its creation. A `Clock` shows a moment twice, in the time of its place,
which stamps are taken from, and in universal time, which a volume is numbered by.
-/

namespace FatVolume

/-- A leap year of the Gregorian calendar. -/
def IsLeapYear (year : Int) : Prop := year % 4 = 0 ∧ (year % 100 ≠ 0 ∨ year % 400 = 0)

instance (year : Int) : Decidable (IsLeapYear year) := inferInstanceAs (Decidable (_ ∧ _))

/-- Days of a month, zero if there is no such month. -/
def daysInMonth (year : Int) : Nat → Nat
  | 1 => 31
  | 2 => if IsLeapYear year then 29 else 28
  | 3 => 31
  | 4 => 30
  | 5 => 31
  | 6 => 30
  | 7 => 31
  | 8 => 31
  | 9 => 30
  | 10 => 31
  | 11 => 30
  | 12 => 31
  | _ => 0

/-- A date with a time of day. -/
structure Moment where
  /-- The year; the year before 1 is 0. -/
  year : Int
  /-- The month, counted from 1. -/
  month : Nat
  /-- The day of the month, counted from 1. -/
  day : Nat
  /-- The hour of the day. -/
  hour : Nat
  /-- The minute of the hour. -/
  minute : Nat
  /-- The second of the minute; a leap second is counted as second 59. -/
  second : Nat
  /-- The microsecond of the second, at least 1000000 in a leap second. -/
  micro : Nat
  /-- The day exists in its month, and so the month in the year. -/
  day_exists : 1 ≤ day ∧ day ≤ daysInMonth year month := by decide
  /-- The hour exists. -/
  hour_exists : hour < 24 := by decide
  /-- The minute exists. -/
  minute_exists : minute < 60 := by decide
  /-- The second exists. -/
  second_exists : second < 60 := by decide
  /-- Only second 59 can be followed by a leap second. -/
  micro_exists : micro < 1000000 ∨ second = 59 ∧ micro < 2000000 := by decide
  deriving DecidableEq

namespace Moment

/-- The moment with the given fields, if there is one. -/
def of? (year : Int) (month day hour minute second micro : Nat) : Option Moment :=
  if h : (1 ≤ day ∧ day ≤ daysInMonth year month) ∧ hour < 24 ∧ minute < 60 ∧ second < 60 ∧
      (micro < 1000000 ∨ second = 59 ∧ micro < 2000000) then
    some ⟨year, month, day, hour, minute, second, micro, h.1, h.2.1, h.2.2.1, h.2.2.2.1,
      h.2.2.2.2⟩
  else none

/-- Days of a year before its month begins. -/
def daysBeforeMonth (year : Int) (month : Nat) : Nat :=
  ((List.range (month - 1)).map fun m => daysInMonth year (m + 1)).sum

/-- Days from the beginning of the year 1 to the beginning of a year. -/
def daysBeforeYear (year : Int) : Int :=
  let past := year - 1
  365 * past + past / 4 - past / 100 + past / 400

/-- Days from the beginning of 1970 to the day of the moment. -/
def unixDay (m : Moment) : Int :=
  daysBeforeYear m.year + daysBeforeMonth m.year m.month + (m.day - 1) - daysBeforeYear 1970

/-- Seconds from the beginning of 1970 to the second of the moment. -/
def unixSeconds (m : Moment) : Int :=
  m.unixDay * 86400 + (m.hour * 3600 + m.minute * 60 + m.second : Nat)

/-- The beginning of 1980, the first moment that a directory entry can hold. -/
def epoch : Moment := { year := 1980, month := 1, day := 1, hour := 0, minute := 0, second := 0,
                        micro := 0 }

end Moment

/-- A packed time of day and date. -/
structure Stamp where
  /-- Five bits of hours, six of minutes, five of double seconds. -/
  time : UInt16
  /-- Seven bits of years since 1980, four of months, five of days. -/
  date : UInt16
  deriving DecidableEq

namespace Stamp

/-- Pack the fields of a time and date. -/
def pack (year month day hour minute second : Nat) : Stamp where
  time := UInt16.ofNat (second / 2 + minute * 32 + hour * 2048)
  date := UInt16.ofNat (day + month * 32 + (year - 1980) * 512)

/-- The stamp of a moment. Moments before 1980 and after 2107 get the first and the last stamp. -/
def ofMoment (m : Moment) : Stamp :=
  if m.year < 1980 then pack 1980 1 1 0 0 0
  else if 2107 < m.year then pack 2107 12 31 23 59 58
  else pack m.year.toNat m.month m.day m.hour m.minute m.second

end Stamp

/-- The volume number of a moment: twelve bits of its second above its microseconds. -/
def Moment.volumeId (m : Moment) : UInt32 :=
  UInt32.ofNat ((m.unixSeconds % 2 ^ 32).toNat * 2 ^ 20) ||| UInt32.ofNat m.micro

/-- What a clock shows at the place where a volume is made. -/
structure Clock where
  /-- The moment in the time of the place. -/
  wall : Moment
  /-- The same moment in universal time. -/
  universal : Moment
  deriving DecidableEq

/-- A clock where universal time is kept. -/
instance : Coe Moment Clock := ⟨fun m => ⟨m, m⟩⟩

/-- A day of the calendar. -/
structure CalendarDay where
  /-- The year. -/
  year : Int
  /-- The month, counted from 1. -/
  month : Nat
  /-- The day of the month, counted from 1. -/
  day : Nat
  deriving DecidableEq

namespace CalendarDay

/-- Days of 400 years, after which the calendar repeats. -/
def cycleDays : Int := 146097

/-- Days from the first of March of the year 0 to the beginning of 1970. -/
def daysBeforeUnix : Int := 719468

/-- The day of a count of days from the beginning of 1970. Years are taken to begin in March here,
so that a leap day is the last day of its year. -/
def ofUnix (count : Int) : CalendarDay :=
  let days := count + daysBeforeUnix
  let inCycle := (days % cycleDays).toNat
  let yearInCycle := (inCycle - inCycle / 1460 + inCycle / 36524 - inCycle / 146096) / 365
  let inYear := inCycle - (365 * yearInCycle + yearInCycle / 4 - yearInCycle / 100)
  let monthFromMarch := (5 * inYear + 2) / 153
  let day := inYear - (153 * monthFromMarch + 2) / 5 + 1
  let month := if monthFromMarch < 10 then monthFromMarch + 3 else monthFromMarch - 9
  let year := days / cycleDays * 400 + yearInCycle
  ⟨if month ≤ 2 then year + 1 else year, month, day⟩

end CalendarDay

/-- The moment of a count of seconds from the beginning of 1970 and a microsecond. -/
def Moment.ofUnix? (seconds : Int) (micro : Nat) : Option Moment :=
  let day := CalendarDay.ofUnix (seconds / 86400)
  let time := (seconds % 86400).toNat
  Moment.of? day.year day.month day.day (time / 3600) (time / 60 % 60) (time % 60) micro

end FatVolume
