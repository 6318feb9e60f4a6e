import SearchFilter.Calendar.DayMonthYear
import SearchFilter.Failure
import SearchFilter.Value.Display

/-!
# Typed values from text

Parameters arrive as text.  Before a value is compared with a field it is turned into what it
denotes:

* a list of integer texts becomes a list of integers, if all of its items are such texts
  (`integers`);
* for boolean fields, `1` and `0` become truth values (`truthValue`);
* for other fields, a text in which a date occurs in the notation day.month.year becomes the date or
  moment that the date parser reads (`coerce`).

A text that looks like a date and is refused by the parser is a failure, not a text.
-/

namespace SearchFilter

open SearchFilter.Calendar

/-- Reads a date or moment from a text, or refuses with a reason. -/
abbrev DateParser := String → Except String Value

/-- The parser for day.month.year, with or without hour and minute. -/
def DateParser.default : DateParser := fun text =>
  match readMoment? text with
  | some moment => .ok (.datetime moment)
  | none => .error ("no format matches " ++ Text.quoted (Text.strip text))

/-- The parser that takes every text as it is. -/
def DateParser.verbatim : DateParser := fun text => .ok (.text text)

/-- The parser that reads the same value from every text. -/
def DateParser.constant (value : Value) : DateParser := fun _ => .ok value

/-- The parser that refuses every text. -/
def DateParser.refusing : DateParser := fun text => .error ("bad date " ++ text)

/-- A parser used on its own: its refusal is the failure. -/
def DateParser.parse (parser : DateParser) (text : String) : Except Failure Value :=
  (parser text).mapError .refusedDate

namespace Value

/-! ## Lists of integers -/

/-- An integer that is not a truth value. -/
def isInteger : Value → Bool
  | int _ => true
  | _ => false

/-- A text that denotes an integer. -/
def isIntegerText (v : Value) : Bool :=
  match v.text? with
  | some s => Number.isIntegerLike s
  | none => false

/-- The integer that a value denotes: texts are read, and fractions are cut off. -/
def toInteger (v : Value) : Except Failure Int :=
  match v with
  | bool b => .ok (if b then 1 else 0)
  | int n => .ok n
  | float .nan => .error .notANumber
  | float x =>
    match x.truncate? with
    | some n => .ok n
    | none => .error .infiniteNumber
  | v =>
    match v.text? with
    | some s => Number.readInteger s
    | none => .error .wrongType

/-- A non-empty list or tuple of integers, or of integer texts, as a list of integers; any other
value unchanged. -/
def integers (v : Value) : Except Failure Value :=
  match v.sequence? with
  | none => .ok v
  | some [] => .ok v
  | some items =>
    if items.all isInteger then .ok (list items)
    else if items.all isIntegerText then
      (items.mapM toInteger).map fun numbers => list (numbers.map int)
    else .ok v

/-! ## Truth values -/

/-- `1` and `0`, as numbers of any type or as text, as truth values; any other value unchanged. -/
def truthValue (v : Value) : Value :=
  match v with
  | bool _ => v
  | v =>
    if v.equals (int 1) || v.equals (text "1") then bool true
    else if v.equals (int 0) || v.equals (text "0") then bool false
    else v

/-! ## Dates -/

/-- A parse whose refusal names the text that was to be read. -/
def parsedDate (parser : DateParser) (s : String) : Except Failure Value :=
  (parser s).mapError (.unreadableDate s)

/-- The day of a moment; other values unchanged. -/
def withoutTime : Value → Value
  | datetime t => date t.date
  | v => v

/-- A text as the date or moment it looks like; a text that looks like neither unchanged. -/
def datedText (parser : DateParser) (s : String) : Except Failure Value :=
  if looksLikeMoment s then parsedDate parser s
  else if looksLikeDate s then (parsedDate parser s).map withoutTime
  else .ok (text s)

/-- The value to compare with a field of the given type. -/
def coerce (type : FieldType) (parser : DateParser) (v : Value) : Except Failure Value :=
  if type = .boolean then .ok v.truthValue
  else match v with
    | text s => datedText parser s
    | v => .ok v

end Value

end SearchFilter
