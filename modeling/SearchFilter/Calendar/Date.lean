import SearchFilter.Number.Numeral

/-!
# Dates and times

Dates of the proleptic Gregorian calendar from year 1 to year 9999, and a date with a time of day.
Both types carry the proof that their fields are in range, so there is no impossible date.

Three texts are written for each: the ISO form (`isoText`), the form shown to people (`display`) and
the constructor form that stands inside a printed list (`construction`).
-/

namespace SearchFilter.Calendar

open SearchFilter.Number

/-- Every fourth year is a leap year, but of the centuries only every fourth. -/
def isLeapYear (year : Nat) : Bool :=
  year % 4 == 0 && (year % 100 != 0 || year % 400 == 0)

/-- The number of days of a month. -/
def daysInMonth (year month : Nat) : Nat :=
  if month = 2 then (if isLeapYear year then 29 else 28)
  else if month = 4 ∨ month = 6 ∨ month = 9 ∨ month = 11 then 30
  else 31

/-- The days that exist. -/
def IsDate (year month day : Nat) : Prop :=
  1 ≤ year ∧ year ≤ 9999 ∧ 1 ≤ month ∧ month ≤ 12 ∧ 1 ≤ day ∧ day ≤ daysInMonth year month

instance (year month day : Nat) : Decidable (IsDate year month day) :=
  inferInstanceAs (Decidable (_ ∧ _))

/-- A day of the calendar. -/
structure Date where
  year : Nat
  month : Nat
  day : Nat
  isDate : IsDate year month day
deriving DecidableEq, Repr

/-- The times of day that exist, in microseconds. -/
def IsTime (hour minute second microsecond : Nat) : Prop :=
  hour < 24 ∧ minute < 60 ∧ second < 60 ∧ microsecond < 1000000

instance (hour minute second microsecond : Nat) :
    Decidable (IsTime hour minute second microsecond) :=
  inferInstanceAs (Decidable (_ ∧ _))

/-- A day with a time of day. -/
structure DateTime where
  date : Date
  hour : Nat
  minute : Nat
  second : Nat
  microsecond : Nat
  isTime : IsTime hour minute second microsecond
deriving DecidableEq, Repr

namespace Date

/-- The day with the given numbers, if there is one. -/
def of? (year month day : Nat) : Option Date :=
  if h : IsDate year month day then some ⟨year, month, day, h⟩ else none

/-- Year, month and day, joined by hyphens. -/
def isoText (d : Date) : String :=
  padded 4 d.year ++ "-" ++ padded 2 d.month ++ "-" ++ padded 2 d.day

/-- The arguments of the constructor form. -/
def arguments (d : Date) : String :=
  numeral d.year ++ ", " ++ numeral d.month ++ ", " ++ numeral d.day

/-- The constructor form. -/
def construction (d : Date) : String :=
  "datetime.date(" ++ d.arguments ++ ")"

end Date

namespace DateTime

/-- The moment with the given time of day, if there is one. -/
def of? (date : Date) (hour minute second microsecond : Nat) : Option DateTime :=
  if h : IsTime hour minute second microsecond then
    some ⟨date, hour, minute, second, microsecond, h⟩
  else none

/-- The time of day; microseconds are shown unless they are zero. -/
def timeText (t : DateTime) : String :=
  padded 2 t.hour ++ ":" ++ padded 2 t.minute ++ ":" ++ padded 2 t.second ++
    if t.microsecond = 0 then "" else "." ++ padded 6 t.microsecond

/-- Date and time, joined by the letter T. -/
def isoText (t : DateTime) : String :=
  t.date.isoText ++ "T" ++ t.timeText

/-- Date and time, joined by a space. -/
def display (t : DateTime) : String :=
  t.date.isoText ++ " " ++ t.timeText

/-- The constructor form: zero seconds and microseconds at the end are left out. -/
def construction (t : DateTime) : String :=
  "datetime.datetime(" ++ t.date.arguments ++ ", " ++ numeral t.hour ++ ", " ++ numeral t.minute ++
    (if t.microsecond ≠ 0 then ", " ++ numeral t.second ++ ", " ++ numeral t.microsecond
     else if t.second ≠ 0 then ", " ++ numeral t.second
     else "") ++ ")"

end DateTime

end SearchFilter.Calendar
