import SearchFilter.Lucene

/-!
# Free-text terms

A term of free text before it is written into a query text.  The compiler only ever has the written
form; what a query text says is stated about the terms.
-/

namespace SearchFilter

/-- A term of free text before it is written: a text, or words that a field must have. -/
inductive SearchTerm where
  | text (s : String)
  | words (field : String) (parts : List String)
deriving DecidableEq, Repr

namespace SearchTerm

/-- A term as it is written.  The words of a field are escaped in any case. -/
def write (escape : Bool) : SearchTerm → String
  | text s => if escape then Lucene.escape s else s
  | .words field parts => Lucene.fieldTerm field parts

/-- The field that a term names. -/
def field? : SearchTerm → Option String
  | text _ => none
  | words field _ => some field

/-- A term without what came from a value: the text and the words are empty, and only their number
is left. -/
def hollow : SearchTerm → SearchTerm
  | text _ => .text ""
  | .words field parts => .words field (parts.map fun _ => "")

end SearchTerm

end SearchFilter
