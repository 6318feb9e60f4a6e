import SearchFilter.Text.Letter
import SearchFilter.Value.Display
import SearchFilter.Value.Members

/-!
# Schemas

A schema declares the types of fields: a list of entries, from the name of a field to any value that
names a type.  `Schema.resolve` gives the semantic type of a field: the declared type first, then
the naming convention for boolean fields, otherwise unknown.

`flattenMapping` reads the declarations of an index mapping, in which fields can have fields of
their own; their names are joined by dots.
-/

namespace SearchFilter

/-! ## Names -/

namespace Value

/-- The name of a field given by a value: a named constant gives the value it carries. -/
def fieldName : Value → String
  | constant _ value => value.display
  | v => v.display

/-- The name of a declared type, in small letters: a class gives its own name, and a named constant
the name of the value it carries. -/
def typeName : Value → String
  | fieldType kind => kind.name
  | type kind => Text.lower kind.name
  | constant _ (type kind) => Text.lower kind.name
  | constant _ value => Text.lower value.display
  | v => Text.lower v.display

end Value

/-- The semantic types of the declared types. -/
def declaredTypes : List (String × FieldType) :=
  [("boolean", .boolean), ("bool", .boolean),
    ("date", .date),
    ("datetime", .datetime), ("date_nanos", .datetime), ("timestamp", .datetime),
    ("integer", .numeric), ("int", .numeric), ("long", .numeric), ("short", .numeric),
    ("byte", .numeric), ("float", .numeric), ("double", .numeric), ("half_float", .numeric),
    ("scaled_float", .numeric), ("decimal", .numeric), ("numeric", .numeric),
    ("text", .text), ("keyword", .text), ("string", .text), ("str", .text), ("wildcard", .text)]

/-- Declared types of fields by name. -/
abbrev Schema := List (String × Value)

namespace Schema

/-- The schema declared by pairs of a name and a type. -/
def ofPairs (pairs : List (Value × Value)) : Schema :=
  Entries.ofPairs (pairs.map fun pair => (pair.1.fieldName, pair.2))

/-- The schema that a map declares; values that are not filled declare nothing. -/
def ofValue (v : Value) : Except Failure Schema :=
  if v.isFilled then v.toEntries.map ofPairs else .ok []

/-- The semantic type of a field.  A field declared as null counts as not declared. -/
def resolve (schema : Schema) (booleanPrefixes : List String) (name : String) : FieldType :=
  match schema.lookup name with
  | some .null | none =>
    if booleanPrefixes.any (Text.beginsWith · name) then .boolean else .unknown
  | some declared => (declaredTypes.lookup declared.typeName).getD .unknown

end Schema

/-! ## Index mappings -/

namespace Value

mutual

/-- How deeply containers are nested in a value. -/
def depth : Value → Nat
  | list items => depthOfItems items + 1
  | tuple items => depthOfItems items + 1
  | set items => depthOfItems items + 1
  | map entries => depthOfEntries entries + 1
  | _ => 0

/-- The greatest depth of the items of a container. -/
def depthOfItems : List Value → Nat
  | [] => 0
  | item :: items => max item.depth (depthOfItems items)

/-- The greatest depth of the values of a map. -/
def depthOfEntries : List (Value × Value) → Nat
  | [] => 0
  | (_, value) :: entries => max value.depth (depthOfEntries entries)

end

end Value

namespace Schema

/-- The declarations of one field: its own type, and those of the fields below it. -/
def declare (flattenBelow : String → Value → Except Failure Schema) (path : String)
    (name definition : Value) (schema : Schema) : Except Failure Schema := do
  let fullName := path ++ name.display
  let withOwn ←
    if ← definition.mentions "type" then
      (definition.member "type").map fun declared => Entries.put fullName declared schema
    else .ok schema
  if ← definition.mentions "properties" then
    (flattenBelow (fullName ++ ".") definition).map fun below => Entries.putAll withOwn below
  else .ok withOwn

/-- The declarations of several fields, added to those already there. -/
def declareAll (flattenBelow : String → Value → Except Failure Schema) (path : String) :
    List (Value × Value) → Schema → Except Failure Schema
  | [], schema => .ok schema
  | (name, definition) :: rest, schema =>
    (declare flattenBelow path name definition schema).bind (declareAll flattenBelow path rest)

/-- The declarations of a mapping of at most the given depth. -/
def flattenWithin : Nat → String → Value → Except Failure Schema
  | 0, _, _ => .ok []
  | depth + 1, path, mapping => do
    let inner ← if ← mapping.mentions "mappings" then mapping.member "mappings" else .ok mapping
    let properties ← inner.getOr "properties" (.map [])
    let fields ← properties.toEntries
    declareAll (flattenWithin depth) path fields []

/-- The declarations of an index mapping, given as its properties or as a map that holds them, with
`path` in front of every name. -/
def flattenMapping (path : String) (mapping : Value) : Except Failure Schema :=
  flattenWithin (mapping.depth + 1) path mapping

end Schema

end SearchFilter
