import SearchFilter.Failure
import SearchFilter.Value.Basic

/-!
# Members of values

Responses, mappings and parameters are values whose shape is not known beforehand.  The functions
here look into them and fail when the shape does not fit:

* `mentions` and `member` ask for a name and for what is under it;
* `getOr` and `toEntries` take the value to be a map;
* `givenEntries` makes entries of what a caller gives for a map: a map, a row of pairs, or nothing.
-/

namespace SearchFilter.Value

/-! ## Names -/

/-- Whether a name occurs in a value: as a key of a map, as an item, or as part of a text. -/
def mentions (v : Value) (name : String) : Except Failure Bool :=
  match v with
  | map entries => .ok (field? name entries).isSome
  | list items => .ok (items.any (·.equals (text name)))
  | tuple items => .ok (items.any (·.equals (text name)))
  | set items => .ok (items.any (·.equals (text name)))
  | v =>
    match v.text? with
    | some s => .ok (Text.contains name s)
    | none => .error .wrongType

/-- The value under a name that occurs in `v`; only maps have values under names. -/
def member (v : Value) (name : String) : Except Failure Value :=
  match v with
  | map entries => .ok ((field? name entries).getD null)
  | _ => .error .wrongType

/-- The value under a name of a map, or a default. -/
def getOr (v : Value) (name : String) (default : Value) : Except Failure Value :=
  match v with
  | map entries => .ok ((field? name entries).getD default)
  | _ => .error .noSuchMember

/-! ## Entries -/

/-- The entries of a map. -/
def toEntries (v : Value) : Except Failure (List (Value × Value)) :=
  match v.entries? with
  | some entries => .ok entries
  | none => .error .noSuchMember

mutual

/-- Whether a value can be a key: containers that can change cannot, nor what is made of them. -/
def isKey : Value → Bool
  | list _ => false
  | set _ => false
  | map _ => false
  | tuple items => areKeys items
  | _ => true

/-- Whether all values of a list can be keys. -/
def areKeys : List Value → Bool
  | [] => true
  | item :: items => isKey item && areKeys items

end

/-- A value with two elements as a key and what is under it; `place` is its place in a row. -/
def toPair (place : Nat) (v : Value) : Except Failure (Value × Value) :=
  match v.elements? with
  | some [key, value] => if key.isKey then .ok (key, value) else .error .wrongType
  | some elements => .error (.notAPair place elements.length)
  | none => .error .wrongType

/-- The pairs of a row, whose first item has the given place. -/
def toPairs : Nat → List Value → Except Failure (List (Value × Value))
  | _, [] => .ok []
  | place, item :: items => do
    let pair ← toPair place item
    return pair :: (← toPairs (place + 1) items)

/-- The entries that a value gives: those of a map, or a row of pairs. -/
def givenEntries (v : Value) : Except Failure (List (Value × Value)) :=
  match v.entries?, v.elements? with
  | some entries, _ => .ok entries
  | none, some items => (toPairs 0 items).map Entries.ofPairs
  | none, none => .error .wrongType

/-- The entries that a value gives; values that are not filled give none. -/
def entriesOrNone (v : Value) : Except Failure (List (Value × Value)) :=
  if v.isFilled then v.givenEntries else .ok []

end SearchFilter.Value
