import SearchFilter.Calendar.Date
import SearchFilter.Text.Split

/-!
# The notation day.month.year

Dates written `DD.MM.YYYY` and moments written `DD.MM.YYYY HH:MM`.

* `readMoment?` reads a whole text.  Day, month, hour and minute may have one digit, the year has
  four; the time is set off by one or more blanks.  The second digit of a pair, and a digit that
  stands alone for an hour or a minute, may belong to any script; all other digits of day and month
  are ASCII digits.
* `looksLikeDate` and `looksLikeMoment` only ask whether the full notation, with two digits each and
  a single space, occurs somewhere in a text.
-/

namespace SearchFilter.Calendar

open SearchFilter.Text

/-! ## The two-digit fields -/

/-- A number made of two digits. -/
def pair? (tens ones : Char) : Option Nat :=
  match digitValue? tens, digitValue? ones with
  | some t, some o => some (10 * t + o)
  | _, _ => none

/-- A digit from one to nine. -/
def isLeadingDigit (c : Char) : Bool :=
  '1' ≤ c && c ≤ '9'

/-- A day of the month: `1` to `9`, `01` to `09`, `10` to `29`, `30` or `31`. -/
def readDay? : List Char → Option Nat
  | [ones] => if isLeadingDigit ones then digitValue? ones else none
  | [tens, ones] =>
    if tens == '3' then (if ones == '0' || ones == '1' then pair? tens ones else none)
    else if tens == '1' || tens == '2' then pair? tens ones
    else if tens == '0' && isLeadingDigit ones then pair? tens ones
    else none
  | _ => none

/-- A month: `1` to `9`, `01` to `09`, or `10` to `12`. -/
def readMonth? : List Char → Option Nat
  | [ones] => if isLeadingDigit ones then digitValue? ones else none
  | [tens, ones] =>
    if tens == '1' then (if '0' ≤ ones && ones ≤ '2' then pair? tens ones else none)
    else if tens == '0' && isLeadingDigit ones then pair? tens ones
    else none
  | _ => none

/-- An hour: one digit, or `00` to `23`. -/
def readHour? : List Char → Option Nat
  | [ones] => digitValue? ones
  | [tens, ones] =>
    if tens == '2' then (if '0' ≤ ones && ones ≤ '3' then pair? tens ones else none)
    else if tens == '0' || tens == '1' then pair? tens ones
    else none
  | _ => none

/-- A minute: one digit, or `00` to `59`. -/
def readMinute? : List Char → Option Nat
  | [ones] => digitValue? ones
  | [tens, ones] => if '0' ≤ tens && tens ≤ '5' then pair? tens ones else none
  | _ => none

/-- A year: four digits. -/
def readYear? : List Char → Option Nat
  | [a, b, c, d] =>
    match pair? a b, pair? c d with
    | some century, some rest => some (100 * century + rest)
    | _, _ => none
  | _ => none

/-! ## Whole texts -/

/-- An hour and a minute with a colon between. -/
def readTime? (cs : List Char) : Option (Nat × Nat) :=
  match cutAt ':' cs with
  | (hour, some minute) =>
    match readHour? hour, readMinute? minute with
    | some h, some m => some (h, m)
    | _, _ => none
  | _ => none

/-- A year, alone or followed by blanks and a time; midnight stands for no time. -/
def readYearAndTime? (cs : List Char) : Option (Nat × Nat × Nat) :=
  match readYear? (cs.take 4), cs.drop 4 with
  | some year, [] => some (year, 0, 0)
  | some year, blank :: rest =>
    if isBlank blank then
      (readTime? (rest.dropWhile isBlank)).map fun time => (year, time.1, time.2)
    else none
  | none, _ => none

/-- The moment written in a list of characters that has no blanks around it. -/
def readMomentChars? (cs : List Char) : Option DateTime :=
  match cutAt '.' cs with
  | (dayDigits, some afterDay) =>
    match cutAt '.' afterDay with
    | (monthDigits, some afterMonth) =>
      match readDay? dayDigits, readMonth? monthDigits, readYearAndTime? afterMonth with
      | some day, some month, some (year, hour, minute) =>
        (Date.of? year month day).bind fun date => DateTime.of? date hour minute 0 0
      | _, _, _ => none
    | _ => none
  | _ => none

/-- The moment written in a text; blanks around it are ignored. -/
def readMoment? (text : String) : Option DateTime :=
  readMomentChars? (trim text.toList)

/-! ## Occurrences inside a text -/

/-- Whether a list begins with one character of each class, in order. -/
def hasShape : List (Char → Bool) → List Char → Bool
  | [], _ => true
  | _ :: _, [] => false
  | ok :: shape, c :: cs => ok c && hasShape shape cs

/-- Whether some stretch of a list has the given shape. -/
def occurs (shape : List (Char → Bool)) : List Char → Bool
  | [] => hasShape shape []
  | c :: cs => hasShape shape (c :: cs) || occurs shape cs

/-- The shape of `DD.MM.YYYY`. -/
def dateShape : List (Char → Bool) :=
  [isDigit, isDigit, (· == '.'), isDigit, isDigit, (· == '.'), isDigit, isDigit, isDigit, isDigit]

/-- The shape of `DD.MM.YYYY HH:MM`. -/
def momentShape : List (Char → Bool) :=
  dateShape ++ [(· == ' '), isDigit, isDigit, (· == ':'), isDigit, isDigit]

/-- Whether a date in full notation occurs in the text. -/
def looksLikeDate (text : String) : Bool :=
  occurs dateShape text.toList

/-- Whether a date and time in full notation occurs in the text. -/
def looksLikeMoment (text : String) : Bool :=
  occurs momentShape text.toList

end SearchFilter.Calendar
