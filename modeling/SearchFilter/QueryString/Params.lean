import SearchFilter.QueryString.Decoding
import SearchFilter.Value.Basic

/-!
# Parameters of a query string

Keys of a query string may be nested: `g[0][state_eq]=open` puts a value under `state_eq`, under
`0`, under `g`, and `id_in[]=1` adds a value to the list `id_in`.

`ofQuery` builds the parameters one pair after the other.  A plain key replaces what stands under
its name.  A nested key goes into what is there if that is a list or map as the key needs it, and
is ignored otherwise.
-/

namespace SearchFilter

/-- What a query string can put under a name. -/
inductive Param where
  | text (s : String)
  | list (items : List String)
  | map (entries : List (String × Param))
deriving Repr

namespace Param

mutual

/-- A parameter as a value. -/
def toValue : Param → Value
  | text s => .text s
  | list items => .list (items.map .text)
  | map entries => .map (toEntries entries)

/-- The entries of a map as entries of a map of values. -/
def toEntries : List (String × Param) → List (Value × Value)
  | [] => []
  | (name, param) :: rest => (.text name, toValue param) :: toEntries rest

end

end Param

namespace QueryString

open SearchFilter.Text

/-! ## Nested keys -/

/-- The parts of a text that stand in brackets, where the part in brackets that have been opened has
so far the characters `opened`, last one first. -/
def bracketedAfter : Option (List Char) → List Char → List (List Char)
  | _, [] => []
  | none, c :: cs => bracketedAfter (if c == '[' then some [] else none) cs
  | some opened, c :: cs =>
    if c == ']' then opened.reverse :: bracketedAfter none cs
    else bracketedAfter (some (c :: opened)) cs

/-- The name of a key and the names nested below it. -/
structure Path where
  name : String
  below : List String
deriving DecidableEq, Repr

/-- The path of a key: what stands before the first bracket, then the bracketed parts. -/
def Path.ofKey (key : List Char) : Path :=
  let cut := cutAt '[' key
  ⟨String.ofList cut.1, (bracketedAfter (some []) (cut.2.getD [])).map String.ofList⟩

/-! ## Building the parameters -/

/-- Puts a value at a path.  A path whose only nested name is empty adds to a list. -/
def assign (name : String) (value : String) :
    List String → List (String × Param) → List (String × Param)
  | [], params => Entries.put name (.text value) params
  | next :: below, params =>
    if next.isEmpty && below.isEmpty then
      match params.lookup name with
      | none => Entries.put name (.list [value]) params
      | some (.list items) => Entries.put name (.list (items ++ [value])) params
      | some _ => params
    else
      match params.lookup name with
      | none => Entries.put name (.map (assign next value below [])) params
      | some (.map entries) => Entries.put name (.map (assign next value below entries)) params
      | some _ => params

/-- Puts the value of a decoded pair at the path of its key. -/
def assignPair (params : List (String × Param)) (pair : List Char × List Char) :
    List (String × Param) :=
  let path := Path.ofKey pair.1
  assign path.name (String.ofList pair.2) path.below params

/-- The parameters of a query string. -/
def ofQuery (query : String) : List (String × Param) :=
  (decodePairs query).foldl assignPair []

end QueryString

end SearchFilter
