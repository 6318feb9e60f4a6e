import SearchFilter.Calendar.DayMonthYear
import SearchFilter.Proofs.Number.Digits

/-!
# Dates and times in digits

What stands in a text of the form `DD.MM.YYYY` or `DD.MM.YYYY HH:MM`, apart from the marks: rows of
ASCII digits.  The digits say nothing about whether there is such a day or such a time.

* `IsGregorian` says once more which days there are, by a table of the months and the rule of leap
  years; `isGregorian_iff` shows that these are the days of `Date`.
* `DigitRow` is a row of digits of a given length, `DigitRow.ofNat` the row of a number.
* `DateDigits` and `TimeDigits` are made of such rows.  `DateDigits.date?` and `TimeDigits.moment?`
  are the day and the moment that they stand for, and `Date.digits` and `DateTime.timeDigits` lead
  back.
-/

namespace SearchFilter.Calendar

open SearchFilter.Text SearchFilter.Number

/-! ## The Gregorian calendar -/

/-- The leap years: every fourth one, but of the centuries only every fourth. -/
def IsLeap (year : Nat) : Prop :=
  (4 ∣ year ∧ ¬ 100 ∣ year) ∨ 400 ∣ year

instance (year : Nat) : Decidable (IsLeap year) :=
  inferInstanceAs (Decidable (_ ∨ _))

/-- The lengths of the months of a year, from January to December. -/
def monthLengths (year : Nat) : List Nat :=
  [31, if IsLeap year then 29 else 28, 31, 30, 31, 30, 31, 31, 30, 31, 30, 31]

/-- The days of the years 1 to 9999. -/
structure IsGregorian (year month day : Nat) : Prop where
  year_pos : 1 ≤ year
  year_le : year ≤ 9999
  month_pos : 1 ≤ month
  month_le : month ≤ 12
  day_pos : 1 ≤ day
  day_le : ∀ length, (monthLengths year)[month - 1]? = some length → day ≤ length

theorem isLeapYear_eq_true_iff (year : Nat) : isLeapYear year = true ↔ IsLeap year := by
  unfold isLeapYear IsLeap
  simp only [Bool.and_eq_true, Bool.or_eq_true, beq_iff_eq, bne_iff_ne]
  omega

/-- The lengths of the months are those of the table. -/
theorem getElem?_monthLengths {year month : Nat} (hpos : 1 ≤ month) (hle : month ≤ 12) :
    (monthLengths year)[month - 1]? = some (daysInMonth year month) := by
  have hfebruary : (if IsLeap year then 29 else 28) = if isLeapYear year then 29 else 28 := by
    simp only [isLeapYear_eq_true_iff]
  unfold monthLengths daysInMonth
  rw [hfebruary]
  interval_cases month <;> rfl

theorem isGregorian_iff {year month day : Nat} :
    IsGregorian year month day ↔ IsDate year month day := by
  unfold IsDate
  constructor
  · intro h
    have hlength := h.day_le _ (getElem?_monthLengths h.month_pos h.month_le)
    exact ⟨h.year_pos, h.year_le, h.month_pos, h.month_le, h.day_pos, hlength⟩
  · intro ⟨hyear, hyear', hmonth, hmonth', hday, hlength⟩
    refine ⟨hyear, hyear', hmonth, hmonth', hday, ?_⟩
    intro length hfound
    rw [getElem?_monthLengths hmonth hmonth'] at hfound
    cases hfound
    exact hlength

theorem daysInMonth_le (year month : Nat) : daysInMonth year month ≤ 31 := by
  unfold daysInMonth
  split_ifs <;> omega

/-! ## Dates and times from numbers -/

theorem Date.of?_eq_some {year month day : Nat} {date : Date}
    (h : Date.of? year month day = some date) :
    IsDate year month day ∧ date.year = year ∧ date.month = month ∧ date.day = day := by
  unfold Date.of? at h
  split at h
  · next hdate =>
    cases h
    exact ⟨hdate, rfl, rfl, rfl⟩
  · cases h

theorem DateTime.of?_eq_some {date : Date} {hour minute second microsecond : Nat}
    {moment : DateTime} (h : DateTime.of? date hour minute second microsecond = some moment) :
    IsTime hour minute second microsecond ∧ moment.date = date ∧ moment.hour = hour ∧
      moment.minute = minute ∧ moment.second = second ∧ moment.microsecond = microsecond := by
  unfold DateTime.of? at h
  split at h
  · next htime =>
    cases h
    exact ⟨htime, rfl, rfl, rfl, rfl, rfl⟩
  · cases h

/-! ## Rows of digits -/

/-- A row of ASCII digits. -/
structure DigitRow (width : Nat) where
  chars : List Char
  length_chars : chars.length = width
  isAsciiDigit_chars : ∀ c ∈ chars, isAsciiDigit c = true

namespace DigitRow

variable {width : Nat}

/-- The number that a row stands for. -/
def value (row : DigitRow width) : Nat :=
  Nat.ofDigitChars 10 row.chars 0

/-- The row of a number that is not too long for it, filled with zeros on the left. -/
def ofNat (width n : Nat) (hwidth : 0 < width) (hn : n < 10 ^ width) : DigitRow width where
  chars := (padded width n).toList
  length_chars := by
    have hlength := (Nat.length_toDigits_le_iff (by decide) hwidth).mpr hn
    simp only [padded, String.toList_ofList, List.length_append, List.length_replicate]
    omega
  isAsciiDigit_chars := by
    intro c hc
    rw [padded, String.toList_ofList] at hc
    rcases List.mem_append.mp hc with hzero | hdigit
    · rw [List.eq_of_mem_replicate hzero]
      rfl
    · exact isAsciiDigit_of_mem_toDigits hdigit

@[simp]
theorem value_ofNat {n : Nat} (hwidth : 0 < width) (hn : n < 10 ^ width) :
    (ofNat width n hwidth hn).value = n := by
  show Nat.ofDigitChars 10 (padded width n).toList 0 = n
  rw [padded, String.toList_ofList, Nat.ofDigitChars_append, Nat.ofDigitChars_replicate_zero,
    Nat.mul_zero, Nat.ofDigitChars_ten_toDigits]

theorem isDigit_chars (row : DigitRow width) : ∀ c ∈ row.chars, isDigit c = true := by
  intro c hc
  rw [isDigit, digitValue?_of_isAsciiDigit (row.isAsciiDigit_chars c hc)]
  rfl

theorem not_isBlank_chars (row : DigitRow width) : ∀ c ∈ row.chars, isBlank c = false :=
  fun c hc => isBlank_of_isDigit (row.isDigit_chars c hc)

end DigitRow

/-! ## Dates -/

/-- The digits of `DD.MM.YYYY`. -/
structure DateDigits where
  day : DigitRow 2
  month : DigitRow 2
  year : DigitRow 4

namespace DateDigits

/-- The date as it is written. -/
def chars (d : DateDigits) : List Char :=
  d.day.chars ++ '.' :: (d.month.chars ++ '.' :: d.year.chars)

/-- There is such a day. -/
def IsDay (d : DateDigits) : Prop :=
  IsGregorian d.year.value d.month.value d.day.value

/-- The day is the one with these numbers. -/
structure Denotes (d : DateDigits) (date : Date) : Prop where
  day : date.day = d.day.value
  month : date.month = d.month.value
  year : date.year = d.year.value

/-- The day with these numbers, if there is one. -/
def date? (d : DateDigits) : Option Date :=
  Date.of? d.year.value d.month.value d.day.value

variable {d : DateDigits} {date : Date}

theorem denotes_of_date? (h : d.date? = some date) : d.Denotes date := by
  obtain ⟨_, hyear, hmonth, hday⟩ := Date.of?_eq_some h
  exact ⟨hday, hmonth, hyear⟩

theorem isDay_of_date? (h : d.date? = some date) : d.IsDay :=
  isGregorian_iff.mpr (Date.of?_eq_some h).1

theorem exists_date? (h : d.IsDay) : ∃ date, d.date? = some date :=
  ⟨_, dif_pos (isGregorian_iff.mp h)⟩

theorem date?_eq_none (h : ¬ d.IsDay) : d.date? = none :=
  dif_neg fun hdate => h (isGregorian_iff.mpr hdate)

end DateDigits

namespace Date

variable (date : Date)

theorem bounds : date.day < 10 ^ 2 ∧ date.month < 10 ^ 2 ∧ date.year < 10 ^ 4 := by
  have hdate := date.isDate
  have hdays := daysInMonth_le date.year date.month
  unfold IsDate at hdate
  omega

/-- The digits of a date. -/
def digits : DateDigits where
  day := .ofNat 2 date.day (by decide) date.bounds.1
  month := .ofNat 2 date.month (by decide) date.bounds.2.1
  year := .ofNat 4 date.year (by decide) date.bounds.2.2

@[simp]
theorem date?_digits : date.digits.date? = some date := by
  have hdate : IsDate date.year date.month date.day := date.isDate
  simp [DateDigits.date?, digits, Date.of?, hdate]

/-- The date in digits: day, month and year, with dots. -/
def dottedText : String :=
  padded 2 date.day ++ "." ++ padded 2 date.month ++ "." ++ padded 4 date.year

theorem toList_dottedText : date.dottedText.toList = date.digits.chars := by
  simp [dottedText, digits, DateDigits.chars, DigitRow.ofNat]

end Date

/-! ## Times -/

/-- The digits of `HH:MM`. -/
structure TimeDigits where
  hour : DigitRow 2
  minute : DigitRow 2

namespace TimeDigits

/-- The time as it is written. -/
def chars (t : TimeDigits) : List Char :=
  t.hour.chars ++ ':' :: t.minute.chars

/-- There is such a time of day. -/
def IsTimeOfDay (t : TimeDigits) : Prop :=
  t.hour.value ≤ 23 ∧ t.minute.value ≤ 59

/-- The time of the moment is the one with these numbers. -/
structure Denotes (t : TimeDigits) (moment : DateTime) : Prop where
  hour : moment.hour = t.hour.value
  minute : moment.minute = t.minute.value
  second : moment.second = 0
  microsecond : moment.microsecond = 0

/-- The moment of a day with these numbers, if there is one. -/
def moment? (t : TimeDigits) (date : Date) : Option DateTime :=
  DateTime.of? date t.hour.value t.minute.value 0 0

variable {t : TimeDigits} {date : Date} {moment : DateTime}

theorem denotes_of_moment? (h : t.moment? date = some moment) :
    t.Denotes moment ∧ moment.date = date := by
  obtain ⟨_, hdate, hhour, hminute, hsecond, hmicrosecond⟩ := DateTime.of?_eq_some h
  exact ⟨⟨hhour, hminute, hsecond, hmicrosecond⟩, hdate⟩

theorem isTimeOfDay_of_moment? (h : t.moment? date = some moment) : t.IsTimeOfDay := by
  have htime := (DateTime.of?_eq_some h).1
  unfold IsTime at htime
  unfold IsTimeOfDay
  omega

theorem exists_moment? (h : t.IsTimeOfDay) (date : Date) :
    ∃ moment, t.moment? date = some moment := by
  have htime : IsTime t.hour.value t.minute.value 0 0 := by
    unfold IsTimeOfDay at h
    unfold IsTime
    omega
  exact ⟨_, dif_pos htime⟩

end TimeDigits

namespace DateTime

variable (moment : DateTime)

theorem bounds : moment.hour < 10 ^ 2 ∧ moment.minute < 10 ^ 2 := by
  have htime := moment.isTime
  unfold IsTime at htime
  omega

/-- The digits of a time, seconds left out. -/
def timeDigits : TimeDigits where
  hour := .ofNat 2 moment.hour (by decide) moment.bounds.1
  minute := .ofNat 2 moment.minute (by decide) moment.bounds.2

/-- Without seconds, nothing is left out. -/
theorem moment?_timeDigits (hsecond : moment.second = 0) (hmicrosecond : moment.microsecond = 0) :
    moment.timeDigits.moment? moment.date = some moment := by
  obtain ⟨date, hour, minute, second, microsecond, htime⟩ := moment
  cases hsecond
  cases hmicrosecond
  simp [timeDigits, TimeDigits.moment?, DateTime.of?, htime]

/-- The date in digits, and the time without seconds. -/
def dottedText : String :=
  moment.date.dottedText ++ " " ++ padded 2 moment.hour ++ ":" ++ padded 2 moment.minute

theorem toList_dottedText :
    moment.dottedText.toList = moment.date.digits.chars ++ ' ' :: moment.timeDigits.chars := by
  simp [dottedText, Date.toList_dottedText, timeDigits, TimeDigits.chars, DigitRow.ofNat]

end DateTime

end SearchFilter.Calendar
