import FatVolume.Label
import FatVolume.Proofs.Boot.Foreign
import FatVolume.Proofs.Calendar.Order

/-!
# What a stamp tells of a moment

A stamp has a field of bits for each part of its moment. In the years that it can hold the fields lie
side by side, so they name the moment again, down to an even second (`moment?_ofMoment`); moments out of
these years get the first and the last stamp. Stamps are in the order of their moments
(`rank_ofMoment_le`). The entry that names a volume has the stamp in each of its fields
(`ofMoment_faithful`).
-/

namespace FatVolume

namespace Moment

/-- The years of a moment that a stamp can hold. -/
def IsStampable (m : Moment) : Prop := 1980 ≤ m.year ∧ m.year ≤ 2107

/-- The last moment that a stamp can hold. -/
def stampLimit : Moment := (of? 2107 12 31 23 59 58 0).get (by decide)

/-- The beginning of the even second that is the last one up to a moment. A leap second begins in
second 59, and so after second 58. -/
def onEvenSecond (m : Moment) : Moment :=
  { m with
    second := m.second / 2 * 2
    micro := 0
    second_exists := (Nat.div_mul_le_self m.second 2).trans_lt m.second_exists
    micro_exists := Or.inl (by decide) }

/-- What is left of a moment in a stamp. -/
def stamped (m : Moment) : Moment :=
  if m.year < 1980 then epoch else if 2107 < m.year then stampLimit else m.onEvenSecond

/-- A moment on a leap day long before the years of stamps. -/
def leapDayOfYearZero : Moment := (of? 0 2 29 12 30 31 5).get (by decide)

variable {a b m : Moment}

/-- A moment is the one with its fields. -/
theorem of?_self (m : Moment) :
    of? m.year m.month m.day m.hour m.minute m.second m.micro = some m :=
  dif_pos ⟨m.day_exists, m.hour_exists, m.minute_exists, m.second_exists, m.micro_exists⟩

theorem day_le (m : Moment) : m.day ≤ 31 := by
  refine m.day_exists.2.trans ?_
  unfold daysInMonth
  split <;> first | split <;> decide | decide

end Moment

namespace Stamp

open Moment

/-- The place of a stamp in the lexicographic order of date and time. -/
def rank (s : Stamp) : ℕ ×ₗ ℕ := toLex (s.date.toNat, s.time.toNat)

/-- The moment that the bit fields of a stamp name, if there is one. -/
def moment? (s : Stamp) : Option Moment :=
  Moment.of? (1980 + (s.date.toNat / 512 : ℕ)) (s.date.toNat / 32 % 16) (s.date.toNat % 32)
    (s.time.toNat / 2048) (s.time.toNat / 32 % 64) (s.time.toNat % 32 * 2) 0

variable {a b m : Moment}

/-- In its years a moment is packed as it is. -/
theorem ofMoment_of_isStampable (h : m.IsStampable) :
    ofMoment m = pack m.year.toNat m.month m.day m.hour m.minute m.second := by
  unfold ofMoment
  rw [if_neg (not_lt.2 h.1), if_neg (not_lt.2 h.2)]

theorem toNat_time_ofMoment (h : m.IsStampable) :
    (ofMoment m).time.toNat = m.second / 2 + m.minute * 32 + m.hour * 2048 := by
  have hhour := m.hour_exists
  have hminute := m.minute_exists
  have hsecond := m.second_exists
  rw [ofMoment_of_isStampable h]
  exact UInt16.toNat_ofNat_of_lt' (by simp only [UInt16.size]; omega)

theorem toNat_date_ofMoment (h : m.IsStampable) :
    (ofMoment m).date.toNat = m.day + m.month * 32 + (m.year.toNat - 1980) * 512 := by
  have hday := m.day_le
  have hmonth := m.month_exists
  obtain ⟨hfirst, hlast⟩ := h
  rw [ofMoment_of_isStampable ⟨hfirst, hlast⟩]
  exact UInt16.toNat_ofNat_of_lt' (by simp only [UInt16.size]; omega)

/-- The bit fields of a stamp name its moment, down to an even second. -/
theorem moment?_of_isStampable (h : m.IsStampable) :
    (ofMoment m).moment? = some m.onEvenSecond := by
  have hday := m.day_le
  have hmonth := m.month_exists
  have hminute := m.minute_exists
  have hsecond := m.second_exists
  unfold moment?
  rw [toNat_date_ofMoment h, toNat_time_ofMoment h]
  obtain ⟨hfirst, hlast⟩ := h
  have hyears : (1980 : ℤ) +
      ((m.day + m.month * 32 + (m.year.toNat - 1980) * 512) / 512 : ℕ) = m.year := by omega
  have hmonths : (m.day + m.month * 32 + (m.year.toNat - 1980) * 512) / 32 % 16 = m.month := by
    omega
  have hdays : (m.day + m.month * 32 + (m.year.toNat - 1980) * 512) % 32 = m.day := by omega
  have hhours : (m.second / 2 + m.minute * 32 + m.hour * 2048) / 2048 = m.hour := by omega
  have hminutes : (m.second / 2 + m.minute * 32 + m.hour * 2048) / 32 % 64 = m.minute := by omega
  have hseconds : (m.second / 2 + m.minute * 32 + m.hour * 2048) % 32 = m.second / 2 := by omega
  rw [hyears, hmonths, hdays, hhours, hminutes, hseconds]
  exact of?_self m.onEvenSecond

/-- The bit fields lie side by side in their words: no two of them share a bit. -/
theorem toNat_ofMoment_eq_or (h : m.IsStampable) :
    (ofMoment m).time.toNat = m.hour <<< 11 ||| m.minute <<< 5 ||| m.second / 2 ∧
    (ofMoment m).date.toNat = (m.year.toNat - 1980) <<< 9 ||| m.month <<< 5 ||| m.day := by
  have hday := m.day_le
  have hmonth := m.month_exists
  have hminute := m.minute_exists
  have hsecond := m.second_exists
  have htime : m.minute <<< 5 ||| m.second / 2 = m.minute * 32 + m.second / 2 := by
    rw [← Nat.shiftLeft_add_eq_or_of_lt (by omega), Nat.shiftLeft_eq]
  have hdate : m.month <<< 5 ||| m.day = m.month * 32 + m.day := by
    rw [← Nat.shiftLeft_add_eq_or_of_lt (by omega), Nat.shiftLeft_eq]
  rw [toNat_time_ofMoment h, toNat_date_ofMoment h, Nat.or_assoc, Nat.or_assoc, htime, hdate,
    ← Nat.shiftLeft_add_eq_or_of_lt (by omega), ← Nat.shiftLeft_add_eq_or_of_lt (by omega),
    Nat.shiftLeft_eq, Nat.shiftLeft_eq]
  omega

theorem ofMoment_of_lt (h : m.year < 1980) : ofMoment m = ofMoment epoch := if_pos h

theorem ofMoment_of_gt (h : 2107 < m.year) : ofMoment m = ofMoment stampLimit := by
  unfold ofMoment
  rw [if_neg (by omega), if_pos h]
  rfl

/-- Every stamp of a moment is that of a moment in the years of stamps. -/
theorem exists_isStampable (m : Moment) : ∃ s : Moment, s.IsStampable ∧ ofMoment m = ofMoment s := by
  by_cases hfirst : m.year < 1980
  · exact ⟨epoch, ⟨by decide, by decide⟩, ofMoment_of_lt hfirst⟩
  · by_cases hlast : 2107 < m.year
    · exact ⟨stampLimit, ⟨by decide, by decide⟩, ofMoment_of_gt hlast⟩
    · exact ⟨m, ⟨not_lt.1 hfirst, not_lt.1 hlast⟩, rfl⟩

/-- No moment has a stamp before the first one. -/
theorem rank_epoch_le (m : Moment) : (ofMoment epoch).rank ≤ (ofMoment m).rank := by
  obtain ⟨s, hs, heq⟩ := exists_isStampable m
  have hday := s.day_exists.1
  have hmonth := s.month_exists.1
  rw [heq]
  refine Prod.Lex.toLex_mono ⟨?_, Nat.zero_le _⟩
  rw [toNat_date_ofMoment hs]
  show 33 ≤ s.day + s.month * 32 + (s.year.toNat - 1980) * 512
  omega

theorem rank_le_stampLimit (m : Moment) : (ofMoment m).rank ≤ (ofMoment stampLimit).rank := by
  obtain ⟨s, hs, heq⟩ := exists_isStampable m
  have hday := s.day_le
  have hmonth := s.month_exists.2
  have hhour := s.hour_exists
  have hminute := s.minute_exists
  have hsecond := s.second_exists
  rw [heq]
  refine Prod.Lex.toLex_mono ⟨?_, ?_⟩
  · rw [toNat_date_ofMoment hs]
    obtain ⟨hfirst, hlast⟩ := hs
    show s.day + s.month * 32 + (s.year.toNat - 1980) * 512 ≤ 65439
    omega
  · rw [toNat_time_ofMoment hs]
    show s.second / 2 + s.minute * 32 + s.hour * 2048 ≤ 49021
    omega

/-- In the years of stamps later moments do not have earlier stamps. Dates are compared by year,
month and day, and times only on the same date. -/
theorem rank_le_of_isStampable (ha : a.IsStampable) (hb : b.IsStampable) (h : a ≤ b) :
    (ofMoment a).rank ≤ (ofMoment b).rank := by
  have hday := a.day_le
  have hmonth := a.month_exists
  have hday' := b.day_exists.1
  have hminute := a.minute_exists
  have hsecond := a.second_exists
  have hminute' := b.minute_exists
  have hsecond' := b.second_exists
  unfold rank
  rw [toNat_date_ofMoment ha, toNat_date_ofMoment hb, toNat_time_ofMoment ha,
    toNat_time_ofMoment hb, Prod.Lex.toLex_le_toLex]
  dsimp only
  obtain hdate | ⟨hdate, htime⟩ := date_lt_or_of_le h
  · left
    obtain ⟨hfirst, hlast⟩ := ha
    obtain hyear | ⟨hyear, hmonth | ⟨hmonth, hday⟩⟩ := date_lt_iff.1 hdate
    · omega
    · rw [← hyear]
      omega
    · rw [← hyear, hmonth]
      omega
  · right
    obtain ⟨hyear, hmonth, hday⟩ := date_eq_iff.1 hdate
    unfold secondOfDay at htime
    rw [hyear, hmonth, hday]
    exact ⟨rfl, by omega⟩

/-- Later moments do not have earlier stamps. -/
theorem rank_ofMoment_le (h : a ≤ b) : (ofMoment a).rank ≤ (ofMoment b).rank := by
  have hyear := year_le_of_le h
  by_cases hfirst : a.year < 1980
  · rw [ofMoment_of_lt hfirst]
    exact rank_epoch_le b
  · by_cases hlast : 2107 < b.year
    · rw [ofMoment_of_gt hlast]
      exact rank_le_stampLimit a
    · exact rank_le_of_isStampable ⟨by omega, by omega⟩ ⟨by omega, by omega⟩ h

/-- The bit fields of every stamp of a moment name a moment. -/
theorem moment?_ofMoment (m : Moment) : (ofMoment m).moment? = some m.stamped := by
  unfold stamped
  by_cases hfirst : m.year < 1980
  · rw [ofMoment_of_lt hfirst, moment?_of_isStampable ⟨by decide, by decide⟩, if_pos hfirst]
    rfl
  · by_cases hlast : 2107 < m.year
    · rw [ofMoment_of_gt hlast, moment?_of_isStampable ⟨by decide, by decide⟩, if_neg hfirst,
        if_pos hlast]
      rfl
    · rw [moment?_of_isStampable ⟨not_lt.1 hfirst, not_lt.1 hlast⟩, if_neg hfirst, if_neg hlast]

/-- A directory entry has a stamp in each of its fields for one. Of the last access it has no time. -/
structure IsIn (s : Stamp) (entry : List UInt8) : Prop where
  /-- The time of creation. -/
  creationTime : fieldAt entry 14 2 = s.time.toNat
  /-- The date of creation. -/
  creationDate : fieldAt entry 16 2 = s.date.toNat
  /-- The date of the last access. -/
  accessDate : fieldAt entry 18 2 = s.date.toNat
  /-- The time of the last modification. -/
  modificationTime : fieldAt entry 22 2 = s.time.toNat
  /-- The date of the last modification. -/
  modificationDate : fieldAt entry 24 2 = s.date.toNat

/-- The entry that names a volume has the stamp of the creation everywhere. -/
theorem isIn_entry (l : Label) (created : Moment) : (ofMoment created).IsIn (l.entry created) := by
  constructor <;>
    simp [Label.entry, fieldAt, bytesAt_skip, bytesAt_front]

/-- The stamp with its time and its date at two places of a directory entry. -/
def readAt (entry : List UInt8) (time date : Nat) : Stamp where
  time := UInt16.ofNat (fieldAt entry time 2)
  date := UInt16.ofNat (fieldAt entry date 2)

/-- The stamp of the creation is read from the entry that has it. -/
theorem IsIn.readAt_creation {s : Stamp} {entry : List UInt8} (h : s.IsIn entry) :
    readAt entry 14 16 = s := by
  unfold readAt
  rw [h.creationTime, h.creationDate, UInt16.ofNat_toNat, UInt16.ofNat_toNat]

theorem IsIn.readAt_modification {s : Stamp} {entry : List UInt8} (h : s.IsIn entry) :
    readAt entry 22 24 = s := by
  unfold readAt
  rw [h.modificationTime, h.modificationDate, UInt16.ofNat_toNat, UInt16.ofNat_toNat]

/-- **Stamps are faithful and ordered.** The bit fields of every stamp of a moment name a moment: in
the years from 1980 to 2107 the one that it was made from, down to an even second, before them the
beginning of 1980 and after them the last even second of 2107. In these years no two fields share a
bit. Later moments do not have earlier stamps, and the entry that names a volume has the stamp of the
creation in all its fields for stamps. -/
theorem ofMoment_faithful :
    (∀ m : Moment, (ofMoment m).moment? = some (
      if m.year < 1980 then epoch else if 2107 < m.year then stampLimit else m.onEvenSecond)) ∧
    (∀ m : Moment, m.IsStampable →
      (ofMoment m).time.toNat = m.hour <<< 11 ||| m.minute <<< 5 ||| m.second / 2 ∧
      (ofMoment m).date.toNat = (m.year.toNat - 1980) <<< 9 ||| m.month <<< 5 ||| m.day) ∧
    (∀ a b : Moment, a ≤ b → (ofMoment a).rank ≤ (ofMoment b).rank) ∧
    ∀ (l : Label) (created : Moment), (ofMoment created).IsIn (l.entry created) :=
  ⟨moment?_ofMoment, fun _ h => toNat_ofMoment_eq_or h, fun _ _ h => rank_ofMoment_le h, isIn_entry⟩

/-- The leap second at the end of 2016 is stamped as second 58, and no later than the beginning of 2017.
A moment of the year 0 has the stamp of the beginning of 1980. -/
theorem ofMoment_faithful_leapSecond :
    (ofMoment (endOf2016 1999999)).moment? = some (endOf2016 1999999).onEvenSecond ∧
    (endOf2016 1999999).onEvenSecond.second = 58 ∧
    (ofMoment (endOf2016 1999999)).time.toNat = 23 <<< 11 ||| 59 <<< 5 ||| 29 ∧
    (ofMoment (endOf2016 1999999)).rank ≤ (ofMoment startOf2017).rank ∧
    (ofMoment leapDayOfYearZero).moment? = some epoch ∧
    (ofMoment leapDayOfYearZero).IsIn (Label.unnamed.entry leapDayOfYearZero) := by
  obtain ⟨hread, hfields, hordered, hentry⟩ := ofMoment_faithful
  have htime := (hfields (endOf2016 1999999) ⟨by decide, by decide⟩).1
  have hle : endOf2016 1999999 ≤ startOf2017 := by
    show (endOf2016 1999999).instant ≤ startOf2017.instant
    decide
  exact ⟨hread _, rfl, htime, hordered _ _ hle, hread _, hentry _ _⟩

end Stamp

namespace Label

/-- A directory entry names a volume: it has the label, the attribute of a label, and the moment of the
creation as far as a stamp keeps it. What only the entry of a file has is zero. -/
structure NamesVolume (l : Label) (created : Moment) (entry : List UInt8) : Prop where
  /-- An entry has 32 bytes. -/
  length : entry.length = 32
  /-- The label comes first. -/
  label : bytesAt entry 0 11 = l.bytes.toList
  /-- The attribute is that of a label alone. -/
  flags : fieldAt entry 11 1 = 0x08
  /-- A reserved byte and the part of the second are zero. -/
  reserved : fieldAt entry 12 1 = 0 ∧ fieldAt entry 13 1 = 0
  /-- The creation is stamped. -/
  creation : (Stamp.readAt entry 14 16).moment? = some created.stamped
  /-- The last access was on the day of the creation. -/
  access : fieldAt entry 18 2 = fieldAt entry 16 2
  /-- The last modification was the creation. -/
  modification : (Stamp.readAt entry 22 24).moment? = some created.stamped
  /-- There is no first cluster, in the two halves of its number. -/
  cluster : fieldAt entry 20 2 = 0 ∧ fieldAt entry 26 2 = 0
  /-- There are no bytes. -/
  size : fieldAt entry 28 4 = 0

/-- The entry of a label names the volume. -/
theorem namesVolume_entry (l : Label) (created : Moment) :
    l.NamesVolume created (l.entry created) := by
  have hstamp := Stamp.isIn_entry l created
  exact {
    length := length_entry l created
    label := by simp [entry, bytesAt_front]
    flags := by simp [entry, fieldAt, bytesAt_skip, bytesAt_front, volumeAttribute]
    reserved := by constructor <;> simp [entry, fieldAt, bytesAt_skip, bytesAt_front]
    creation := by rw [hstamp.readAt_creation, Stamp.moment?_ofMoment]
    access := hstamp.accessDate.trans hstamp.creationDate.symm
    modification := by rw [hstamp.readAt_modification, Stamp.moment?_ofMoment]
    cluster := by constructor <;> simp [entry, fieldAt, bytesAt_skip, bytesAt_front]
    size := by
      have hsize : fieldAt (ofWord32 0) 0 4 = 0 := by decide
      simpa [entry, fieldAt, bytesAt_skip] using hsize }

end Label

end FatVolume
