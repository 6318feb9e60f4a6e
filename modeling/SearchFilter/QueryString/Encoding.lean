import SearchFilter.QueryString.Params
import SearchFilter.Text.Percent

/-!
# Writing query strings

The other direction of `ofQuery`: parameters are written as pairs `key=value`, depth first.  A value
in nested maps has the key `name[name]...[name]`, and each item of a list a pair of its own, whose
key ends with empty brackets.

Letters and digits of ASCII are written as they are and everything else is percent-encoded.  The
brackets of keys may be left as they are.
-/

namespace SearchFilter

open SearchFilter.Text

namespace Param

/-! ## Parameters that can be written -/

/-- Whether a text can be a name in a key. -/
def isName (name : String) : Bool :=
  !name.isEmpty && !name.toList.contains '[' && !name.toList.contains ']'

mutual

/-- Whether a parameter can be written: empty lists and maps have nothing to write, names must be
names in keys, and those of a map must be different. -/
def isWritable : Param → Bool
  | text _ => true
  | list items => !items.isEmpty
  | map entries => !entries.isEmpty && areWritable entries

/-- Whether the entries of a map can be written. -/
def areWritable : List (String × Param) → Bool
  | [] => true
  | (name, param) :: rest =>
    isName name && !(rest.map (·.1)).contains name && param.isWritable && areWritable rest

end

/-! ## Leaves -/

mutual

/-- The texts in a parameter, each with the names below the parameter that lead to it. -/
def leaves : Param → List (List String × String)
  | text s => [([], s)]
  | list items => items.map fun item => ([""], item)
  | map entries => entryLeaves entries

/-- The texts in the entries of a map, each with the names that lead to it. -/
def entryLeaves : List (String × Param) → List (List String × String)
  | [] => []
  | (name, param) :: rest =>
    param.leaves.map (fun leaf => (name :: leaf.1, leaf.2)) ++ entryLeaves rest

end

end Param

namespace QueryString

/-! ## Writing pairs -/

/-- A name in brackets. -/
def bracketed (name : String) : List Char :=
  '[' :: (name.toList ++ [']'])

/-- The text of a key: the names below the first stand in brackets. -/
def keyText : List String → List Char
  | [] => []
  | name :: below => name.toList ++ below.flatMap bracketed

/-- Whether a character of a key is written as it is. -/
def staysInKey (bareBrackets : Bool) (c : Char) : Bool :=
  c.isAlphanum || (bareBrackets && (c == '[' || c == ']'))

/-- A pair as it is written. -/
def encodePair (bareBrackets : Bool) (leaf : List String × String) : List Char :=
  Percent.encode (staysInKey bareBrackets) (keyText leaf.1) ++
    '=' :: Percent.encode Char.isAlphanum leaf.2.toList

/-- The query string of parameters. -/
def encode (bareBrackets : Bool) (params : List (String × Param)) : String :=
  String.ofList (['&'].intercalate ((Param.entryLeaves params).map (encodePair bareBrackets)))

end QueryString

end SearchFilter
