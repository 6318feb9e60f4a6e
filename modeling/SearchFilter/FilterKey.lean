import SearchFilter.Predicate

/-!
# Filter keys

A filter key names one or more fields and a predicate: `name_or_title_cont` asks of `name` or
`title` what the predicate `cont` stands for.  The predicate is taken off the end first, and only
then is the rest cut at the separator.
-/

namespace SearchFilter

/-- The fields and the predicate that a key refers to. -/
structure FilterKey where
  fields : List String
  predicate : Predicate
deriving DecidableEq, Repr

namespace FilterKey

/-- The separator of field names. -/
def defaultSeparator : String := "_or_"

/-- The field names of a field part, without empty ones. -/
def splitFields (separator fieldPart : String) : Except Failure (List String) :=
  if separator.isEmpty then .error .emptySeparator
  else .ok ((Text.splitOn separator fieldPart).filter fun name => !name.isEmpty)

/-- Whether the key names more than one field. -/
def isMultiField (key : FilterKey) : Bool :=
  1 < key.fields.length

/-- Reads a key; there is nothing to read when no predicate or no field is named. -/
def parse (registry : List Predicate) (separator key : String) :
    Except Failure (Option FilterKey) :=
  match Predicate.find? registry key with
  | none => .ok none
  | some (fieldPart, predicate) =>
    match splitFields separator fieldPart with
    | .error e => .error e
    | .ok [] => .ok none
    | .ok fields => .ok (some ⟨fields, predicate⟩)

end FilterKey

end SearchFilter
