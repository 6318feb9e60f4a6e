/-!
# Lucene query text

Free text is searched with the query syntax of Lucene, in which some characters are operators.
`escape` puts a backslash in front of each operator, so that the text is searched for as it stands.
`&&` and `||` are operators of two characters; one backslash in front of both is enough.
-/

namespace SearchFilter.Lucene

/-- The operators of one character. -/
def isOperator (c : Char) : Bool :=
  ['+', '-', '!', '(', ')', '\x7b', '\x7d', '[', ']', '^', '"', '~', '*', '?', ':', '\\',
    '/'].contains c

/-- A list of characters with its operators escaped. -/
def escapeChars : List Char → List Char
  | [] => []
  | '&' :: '&' :: cs => '\\' :: '&' :: '&' :: escapeChars cs
  | '|' :: '|' :: cs => '\\' :: '|' :: '|' :: escapeChars cs
  | c :: cs => if isOperator c then '\\' :: c :: escapeChars cs else c :: escapeChars cs

/-- A text with its operators escaped. -/
def escape (s : String) : String :=
  String.ofList (escapeChars s.toList)

/-! ## Terms of a query -/

/-- The alternatives of a query, each in parentheses. -/
def anyOf (terms : List String) : String :=
  " OR ".intercalate (terms.map fun term => "(" ++ term ++ ")")

/-- The term that asks a field for all the given words, as parts of words or as whole words. -/
def fieldTerm (field : String) (words : List String) : String :=
  let parts := words.map escape
  let wildcards := " AND ".intercalate (parts.map fun part => field ++ ":*" ++ part ++ "*")
  let phrases := " AND ".intercalate (parts.map fun part => field ++ ":\"" ++ part ++ "\"")
  "(" ++ wildcards ++ ") OR (" ++ phrases ++ ")"

end SearchFilter.Lucene
