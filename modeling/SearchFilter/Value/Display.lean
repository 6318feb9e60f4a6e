import SearchFilter.Number.Shortest
import SearchFilter.Text.Quoted
import SearchFilter.Value.Basic

/-!
# The text of a value

A value that is searched for as text is first written out: `display`.  Texts stand for themselves
and numbers, dates and moments have their usual form.  Inside a list, tuple, set or map an element
has its `literal` form, in which texts are quoted and dates show how they are made.

An integer with too many digits cannot be written, nor can what contains one.  `written` gives the
text of a value or this failure.
-/

namespace SearchFilter

open SearchFilter.Number

/-- The printed form of a class. -/
def DataType.literal (type : DataType) : String :=
  "<class '" ++ type.path ++ "'>"

namespace Value

/-- Items between brackets, separated by a comma and a space. -/
def enclosed (left right : String) (items : List String) : String :=
  left ++ ", ".intercalate items ++ right

/-- The items of a tuple: a single item is followed by a comma. -/
def enclosedTuple : List String → String
  | [item] => "(" ++ item ++ ",)"
  | items => enclosed "(" ")" items

/-- The items of a set; braces without items are the empty map. -/
def enclosedSet : List String → String
  | [] => "set()"
  | items => enclosed "\x7b" "\x7d" items

mutual

/-- The form of a value inside a container. -/
def literal : Value → String
  | null => "None"
  | bool b => if b then "True" else "False"
  | int n => signedNumeral n
  | float x => x.text
  | text s => Text.quoted s
  | list items => enclosed "[" "]" (literals items)
  | tuple items => enclosedTuple (literals items)
  | set items => enclosedSet (literals items)
  | map entries => enclosed "\x7b" "\x7d" (entryLiterals entries)
  | date d => d.construction
  | datetime t => t.construction
  | fieldType kind => kind.literal
  | constant name value => "<" ++ name.text ++ ": " ++ literal value ++ ">"
  | type kind => kind.literal

/-- The forms of several values. -/
def literals : List Value → List String
  | [] => []
  | item :: items => literal item :: literals items

/-- The forms of the entries of a map. -/
def entryLiterals : List (Value × Value) → List String
  | [] => []
  | (key, value) :: entries => (literal key ++ ": " ++ literal value) :: entryLiterals entries

end

/-- The text of a value. -/
def display : Value → String
  | text s => s
  | fieldType kind => kind.name
  | date d => d.isoText
  | datetime t => t.display
  | constant name _ => name.text
  | v => v.literal

/-! ## Values that cannot be written -/

mutual

/-- Whether no integer that the form of a value shows is too long to be written. -/
def hasLiteral : Value → Bool
  | int n => (writtenNumeral n).isOk
  | list items => haveLiterals items
  | tuple items => haveLiterals items
  | set items => haveLiterals items
  | map entries => entriesHaveLiterals entries
  | constant _ value => hasLiteral value
  | _ => true

/-- Whether all values have a form. -/
def haveLiterals : List Value → Bool
  | [] => true
  | item :: items => hasLiteral item && haveLiterals items

/-- Whether all keys and values of a map have a form. -/
def entriesHaveLiterals : List (Value × Value) → Bool
  | [] => true
  | (key, value) :: entries => hasLiteral key && hasLiteral value && entriesHaveLiterals entries

end

/-- Whether a value has a text.  That of a named constant does not show the value it carries. -/
def hasText : Value → Bool
  | constant _ _ => true
  | v => v.hasLiteral

/-- The text of a value, if it has one. -/
def written (v : Value) : Except Failure String :=
  if v.hasText then .ok v.display else .error .integerTooLong

/-! ## Values sought as text -/

/-- The text searched for: the items of a list or tuple are joined by spaces. -/
def searchText (v : Value) : String :=
  match v.sequence? with
  | some items => " ".intercalate (items.map display)
  | none => v.display

end Value

end SearchFilter
