import SearchFilter.Schema

/-!
# Models

A model is what is searched: the name of an index, what is declared of its fields, and labels for
its attributes.  Besides models with an index there are models that only describe their fields,
which is enough to compile filters.
-/

namespace SearchFilter

/-! ## Labels -/

/-- The label of an attribute: `created_at` becomes `Created at`, `author_id` becomes `Author`. -/
def humanize (name : String) : String :=
  let stem := (Text.stripSuffix? "_id" name).getD name
  Text.capitalize
    (Text.strip (String.ofList (stem.toList.map fun c => if c == '_' then ' ' else c)))

/-! ## Types -/

/-- How a model lists its columns. -/
inductive Columns where
  /-- Columns with a name and a type. -/
  | described (columns : List (Value × Value))
  /-- Something else in the place of columns, of which no item has a name. -/
  | undescribed (value : Value)

/-- How a model without index gives the types of its fields. -/
inductive TypesMember where
  /-- An attribute, which holds them. -/
  | stored (types : Value)
  /-- Something to be called, which gives them, or nothing if it fails. -/
  | called (given : Option Value)

/-- The types that a model gives: what can be called is called. -/
def TypesMember.read : TypesMember → Except Failure Value
  | stored types => .ok types
  | called (some types) => .ok types
  | called none => .error .methodFailed

/-- What is searched. -/
inductive Model where
  /-- No model. -/
  | absent
  /-- An index with declared types, if any, and labels of attributes. -/
  | indexed (index : String) (types : Option (List (Value × Value)))
      (labels : List (Value × Value))
  /-- A model without index that describes its fields, by types or by columns. -/
  | describing (types : TypesMember) (columns : Columns)

namespace Model

/-- A model with an index.  Types that are null are not declared at all. -/
def ofTypes (index : String) (types labels : Value) : Except Failure Model := do
  let declared ← match types with
    | .null => .ok none
    | types => types.givenEntries.map some
  return indexed index declared (← labels.entriesOrNone)

/-- A model with the types of an index mapping. -/
def ofMapping (index : String) (mapping labels : Value) : Except Failure Model := do
  let schema ← Schema.flattenMapping "" mapping
  return indexed index (some (schema.map fun entry => (.text entry.1, entry.2)))
    (← labels.entriesOrNone)

/-! ## Members -/

/-- The index to search. -/
def index : Model → Except Failure String
  | indexed name _ _ => .ok name
  | _ => .error .noSuchMember

/-- The declared types of a model with an index. -/
def types : Model → Except Failure (Option (List (Value × Value)))
  | indexed _ types _ => .ok types
  | _ => .error .noSuchMember

/-- The label of an attribute: its own, unless that is empty, or the one made from the name. -/
def label (model : Model) (name : String) : Except Failure Value :=
  match model with
  | indexed _ _ labels =>
    let own := (Value.field? name labels).getD .null
    .ok (if own.isFilled then own else .text (humanize name))
  | _ => .error .noSuchMember

/-! ## Declared types -/

/-- The schema described by columns. -/
def Columns.schema : Columns → Except Failure (Option Schema)
  | .described columns => .ok (some (Schema.ofPairs columns))
  | .undescribed value =>
    match value.sequence? with
    | none => .ok none
    | some [] => .ok (some [])
    | some _ => .error .noSuchMember

/-- The schema of a model: declared types if there are any, else the columns. -/
def schema : Model → Except Failure (Option Schema)
  | absent => .ok none
  | indexed _ types _ => .ok (types.map Schema.ofPairs)
  | describing types columns =>
    types.read.bind fun given =>
      match given.entries? with
      | some entries => .ok (some (Schema.ofPairs entries))
      | none => Columns.schema columns

end Model

end SearchFilter
