import SearchFilter.Failure
import SearchFilter.Text.Letter
import SearchFilter.Value.Display

/-!
# Sort orders

A sort directive lists field names, each of which may be followed by `asc` or `desc` in any letter
case; commas count as blanks.  A field without a direction sorts ascending.  The word after a field
is always taken as its direction if it can be one, and a word that cannot be a direction is a field.
-/

namespace SearchFilter

/-- The direction of a sort order. -/
inductive Direction where
  | ascending
  | descending
deriving DecidableEq, Repr

namespace Direction

/-- The word for a direction. -/
def word : Direction → String
  | ascending => "asc"
  | descending => "desc"

/-- The direction of a word in small letters. -/
def ofWord? (word : String) : Option Direction :=
  if word == "asc" then some ascending
  else if word == "desc" then some descending
  else none

/-- The direction that must be given in small letters. -/
def ofWord (word : String) : Except Failure Direction :=
  match ofWord? word with
  | some direction => .ok direction
  | none => .error (.unknownDirection word)

end Direction

/-- One criterion of a sort order. -/
structure SortField where
  field : String
  direction : Direction
deriving DecidableEq, Repr

namespace SortField

/-- Best match first, and the newest of equal matches first. -/
def defaults : List SortField :=
  [⟨"_score", .descending⟩, ⟨"id", .descending⟩]

/-- The form in which a criterion is sent. -/
def toValue (criterion : SortField) : Value :=
  .record [(criterion.field, .text criterion.direction.word)]

/-- The criteria given by the words of a directive. -/
def ofWords : List String → List SortField
  | [] => []
  | [field] => [⟨field, .ascending⟩]
  | field :: next :: rest =>
    match Direction.ofWord? (Text.lower next) with
    | some direction => ⟨field, direction⟩ :: ofWords rest
    | none => ⟨field, .ascending⟩ :: ofWords (next :: rest)

/-- The words of a text in which commas count as blanks. -/
def textWords (text : String) : List String :=
  Text.words (String.ofList (text.toList.map fun c => if c == ',' then ' ' else c))

/-- The sort order that a text gives. -/
def ofText (text : String) : List SortField :=
  match textWords text with
  | [] => defaults
  | words => ofWords words

/-- The text of a directive: the items of a list or tuple are joined by spaces, and a value that
counts as absent has the empty text.  A directive with an integer that is too long has none. -/
def directiveText (directive : Value) : Except Failure String :=
  match directive.sequence? with
  | some items => (items.mapM Value.written).map fun texts => " ".intercalate texts
  | none => if directive.isFilled then directive.written else .ok ""

/-- The sort order of a directive. -/
def ofDirective (directive : Value) : Except Failure (List SortField) :=
  (directiveText directive).map ofText

end SortField

end SearchFilter
