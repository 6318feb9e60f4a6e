import SearchFilter.Calendar.Date
import SearchFilter.Entries
import SearchFilter.FieldType
import SearchFilter.Number.Binary64
import SearchFilter.Text.Blank
import SearchFilter.Text.Split

/-!
# Values

Parameters, mappings and hits are values of no fixed type: they come from query strings, from JSON
and from the calling program.  `Value` is the type of all of them.

* `text?`, `entries?`, `sequence?` and `elements?` look at a value as a text, a map, an ordered
  sequence, or anything that can be gone through.
* `isBlank` tells the values that stand for an absent parameter, `isFilled` those that count as
  present in a choice between two values.
* `equals` is equality by value: `true`, `1` and `1.0` are equal.
-/

namespace SearchFilter

open SearchFilter.Number SearchFilter.Calendar

/-- A class used as a value, to declare what a field holds. -/
structure DataType where
  /-- The name of the class. -/
  name : String
  /-- The name with that of the module in front in which the class is made. -/
  path : String
deriving DecidableEq, Repr

/-- A class that is part of the language, which is in no module. -/
def DataType.builtIn (name : String) : DataType :=
  ⟨name, name⟩

/-- A class that is made in a module. -/
def DataType.madeIn (place name : String) : DataType :=
  ⟨name, place ++ "." ++ name⟩

/-- The name of a named constant: that of its enumeration and its own. -/
structure ConstantName where
  enumeration : String
  member : String
deriving DecidableEq, Repr

/-- The name of a constant as it is written. -/
def ConstantName.text (name : ConstantName) : String :=
  name.enumeration ++ "." ++ name.member

/-- A value of no fixed type. -/
inductive Value where
  | null
  | bool (b : Bool)
  | int (n : Int)
  | float (x : Binary64)
  | text (s : String)
  | list (items : List Value)
  | tuple (items : List Value)
  | set (items : List Value)
  /-- A map, its entries in order and without equal keys. -/
  | map (entries : List (Value × Value))
  | date (d : Date)
  | datetime (t : DateTime)
  | fieldType (type : FieldType)
  /-- A named constant that stands for the value it carries. -/
  | constant (name : ConstantName) (value : Value)
  | type (type : DataType)
deriving Inhabited, Repr

namespace Value

/-! ## Views -/

/-- A value as text: texts, and field types, which are texts with a name of their own. -/
def text? : Value → Option String
  | text s => some s
  | fieldType kind => some kind.name
  | _ => none

/-- A value as an exact integer: integers, and the truth values as one and zero. -/
def int? : Value → Option Int
  | bool b => some (if b then 1 else 0)
  | int n => some n
  | _ => none

/-- A value as a map. -/
def entries? : Value → Option (List (Value × Value))
  | map entries => some entries
  | _ => none

/-- A value as an ordered sequence: lists and tuples. -/
def sequence? : Value → Option (List Value)
  | list items => some items
  | tuple items => some items
  | _ => none

/-- What one meets in going through a value: items, the keys of a map, the characters of a text. -/
def elements? : Value → Option (List Value)
  | list items => some items
  | tuple items => some items
  | set items => some items
  | map entries => some (entries.map (·.1))
  | text s => some (s.toList.map fun c => text (String.singleton c))
  | fieldType kind => some (kind.name.toList.map fun c => text (String.singleton c))
  | _ => none

/-! ## Tests -/

/-- Values that stand for an absent parameter: null, texts of blanks only, and empty containers. -/
def isBlank (v : Value) : Bool :=
  match v with
  | null => true
  | text s => (Text.trim s.toList).isEmpty
  | list items => items.isEmpty
  | tuple items => items.isEmpty
  | set items => items.isEmpty
  | map entries => entries.isEmpty
  | _ => false

/-- Values that win over a default: all but null, false, zero, the empty text and empty
containers. -/
def isFilled (v : Value) : Bool :=
  match v with
  | null => false
  | bool b => b
  | int n => n != 0
  | float x => x.isNonzero
  | text s => !s.isEmpty
  | list items => !items.isEmpty
  | tuple items => !items.isEmpty
  | set items => !items.isEmpty
  | map entries => !entries.isEmpty
  | _ => true

/-! ## Equality -/

/-- Numbers of any two types are compared by value; nothing else is an equal number. -/
def equalNumbers (x y : Value) : Bool :=
  match x, y with
  | float a, float b => a.equals b
  | float a, other => (other.int?.map a.equalsInt).getD false
  | other, float b => (other.int?.map b.equalsInt).getD false
  | a, b =>
    match a.int?, b.int? with
    | some m, some n => m == n
    | _, _ => false

mutual

/-- Equality by value.  A named constant is equal to itself alone; sets and maps are equal to
nothing. -/
def equals : Value → Value → Bool
  | null, null => true
  | list xs, list ys => equalItems xs ys
  | tuple xs, tuple ys => equalItems xs ys
  | date a, date b => a == b
  | datetime a, datetime b => a == b
  | constant a _, constant b _ => a == b
  | type a, type b => a == b
  | x, y =>
    match x.text?, y.text? with
    | some s, some t => s == t
    | none, none => equalNumbers x y
    | _, _ => false

/-- Equality of two lists, item by item. -/
def equalItems : List Value → List Value → Bool
  | [], [] => true
  | x :: xs, y :: ys => equals x y && equalItems xs ys
  | _, _ => false

end

instance : BEq Value := ⟨equals⟩

/-! ## Maps -/

/-- The map with the given pairs: a repeated key keeps its place and takes the last value. -/
def mapOf (pairs : List (Value × Value)) : Value :=
  map (Entries.ofPairs pairs)

/-- A map with text keys, which must be different. -/
def record (fields : List (String × Value)) : Value :=
  map (fields.map fun field => (text field.1, field.2))

/-- The value of a text key among the entries of a map. -/
def field? (name : String) (entries : List (Value × Value)) : Option Value :=
  entries.lookup (text name)

end Value

end SearchFilter
