/-!
# Field types

What a field means for the values compared with it, as far as the compiler of filters cares.
-/

namespace SearchFilter

/-- The semantic type of a field. -/
inductive FieldType where
  | boolean
  | date
  | datetime
  | numeric
  | text
  | unknown
deriving DecidableEq, Repr

namespace FieldType

/-- The name by which a type is declared and printed. -/
def name : FieldType → String
  | boolean => "boolean"
  | date => "date"
  | datetime => "datetime"
  | numeric => "numeric"
  | text => "text"
  | unknown => "unknown"

/-- All field types. -/
def all : List FieldType :=
  [boolean, date, datetime, numeric, text, unknown]

/-- The type of a given name. -/
def ofName? (name : String) : Option FieldType :=
  all.find? (·.name == name)

/-- The form of a field type inside a printed list. -/
def literal (type : FieldType) : String :=
  "<FieldType." ++ type.name.toUpper ++ ": '" ++ type.name ++ "'>"

end FieldType

end SearchFilter
