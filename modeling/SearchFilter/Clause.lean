import SearchFilter.Failure
import SearchFilter.Value.Display

/-!
# Clauses of a search query

A query is a tree: leaves ask something of one field, and the inner nodes join clauses with
*all of*, *any of* and *none of*.  `Clause.toValue` gives the form in which a clause is sent.

The helpers below build the clauses that predicates need: `Clause.among` for lists of values,
`Clause.containing` for parts of words, `Clause.endingWith` for suffixes.  A wildcard pattern gives
a meaning to `*`, `?` and the backslash, so text that goes into one is escaped first.
-/

namespace SearchFilter

/-! ## Types -/

/-- A question about one field, or a query text over all of them. -/
inductive Leaf where
  /-- The field has this value. -/
  | term (field : String) (value : Value)
  /-- The field has one of these values. -/
  | terms (field : String) (values : List Value)
  /-- The field lies within the bounds, which are given by name. -/
  | range (field : String) (bounds : List (String × Value))
  /-- The field matches a wildcard pattern. -/
  | wildcard (field : String) (pattern : Value)
  /-- The field begins with this value. -/
  | beginning (field : String) (start : Value)
  /-- The field holds these words one after the other. -/
  | phrase (field : String) (words : Value)
  /-- The field has any value at all. -/
  | presence (field : String)
  /-- The document matches a query text. -/
  | queryText (query : Value)
  /-- A question given in the form in which it is sent. -/
  | given (body : Value)

/-- A query. -/
inductive Clause where
  | leaf (question : Leaf)
  /-- Every document. -/
  | everything
  /-- The documents that satisfy all clauses. -/
  | allOf (clauses : List Clause)
  /-- The documents that satisfy at least one clause. -/
  | anyOf (clauses : List Clause)
  /-- The documents that satisfy no clause. -/
  | noneOf (clauses : List Clause)
  /-- The documents that satisfy all clauses, ranked by the first ones. -/
  | ranked (ranking filters : List Clause)

/-! ## The form sent -/

/-- A map with one entry. -/
def Value.entry (name : String) (value : Value) : Value :=
  .record [(name, value)]

/-- The form in which a leaf is sent. -/
def Leaf.toValue : Leaf → Value
  | term field value => .entry "term" (.entry field value)
  | terms field values => .entry "terms" (.entry field (.list values))
  | range field bounds => .entry "range" (.entry field (.record bounds))
  | wildcard field pattern => .entry "wildcard" (.entry field (.entry "value" pattern))
  | beginning field start => .entry "prefix" (.entry field start)
  | phrase field words => .entry "match_phrase" (.entry field words)
  | presence field => .entry "exists" (.entry "field" (.text field))
  | queryText query => .entry "query_string" (.entry "query" query)
  | given body => body

namespace Clause

mutual

/-- The form in which a clause is sent. -/
def toValue : Clause → Value
  | leaf question => question.toValue
  | everything => .entry "match_all" (.record [])
  | allOf clauses => .entry "bool" (.record [("filter", .list (toValues clauses))])
  | anyOf clauses =>
    .entry "bool"
      (.record [("should", .list (toValues clauses)), ("minimum_should_match", .int 1)])
  | noneOf clauses => .entry "bool" (.record [("must_not", .list (toValues clauses))])
  | ranked ranking filters =>
    .entry "bool"
      (.record [("must", .list (toValues ranking)), ("filter", .list (toValues filters))])

/-- The forms of several clauses. -/
def toValues : List Clause → List Value
  | [] => []
  | clause :: clauses => toValue clause :: toValues clauses

end

/-! ## Building clauses -/

/-- The clause of a question. -/
def term (field : String) (value : Value) : Clause :=
  leaf (.term field value)

/-- The clause that a field has any value. -/
def present (field : String) : Clause :=
  leaf (.presence field)

/-- The clause that a field has no value. -/
def absent (field : String) : Clause :=
  noneOf [present field]

/-- The clause that one named bound holds of a field. -/
def bounded (field bound : String) (value : Value) : Clause :=
  leaf (.range field [(bound, value)])

/-- The name of a bound, which is a text; the field itself is no bound. -/
def boundName (key : Value) : Except Failure String :=
  match key.text? with
  | some name => if name = "field" then .error .wrongType else .ok name
  | none => .error .wrongType

/-- The clause that several bounds, given by name, hold of a field. -/
def within (field : String) (bounds : List (Value × Value)) : Except Failure Clause :=
  (bounds.mapM fun bound => (boundName bound.1).map fun name => (name, bound.2)).map fun named =>
    leaf (.range field named)

/-- The values listed by a value: a text lists its parts between commas, trimmed and without empty
ones; a list or tuple its items; anything else itself. -/
def listed (value : Value) : List Value :=
  match value.text? with
  | some s =>
    (((Text.splitOn "," s).map Text.strip).filter (fun part => !part.isEmpty)).map .text
  | none => value.sequence?.getD [value]

/-- The clause that a field has one of the listed values. -/
def among (field : String) (value : Value) : Clause :=
  leaf (.terms field (listed value))

/-- The characters with a meaning of their own in a wildcard pattern. -/
def isWildcard (c : Char) : Bool :=
  c == '\\' || c == '*' || c == '?'

/-- The characters of a pattern that matches exactly the given characters. -/
def escapeWildcards (cs : List Char) : List Char :=
  cs.flatMap fun c => if isWildcard c then ['\\', c] else [c]

/-- A pattern that matches exactly the given text. -/
def literalPattern (s : String) : String :=
  String.ofList (escapeWildcards s.toList)

/-- The clause that all words of a value occur in a field: all of them as parts of words, or all of
them as whole words. -/
def containing (field : String) (value : Value) : Clause :=
  let words := Text.words value.display
  anyOf [
    allOf (words.map fun word =>
      leaf (.wildcard field (.text ("*" ++ literalPattern word ++ "*")))),
    allOf (words.map fun word => leaf (.phrase field (.text word)))]

/-- The clause that a field ends with the text of a value. -/
def endingWith (field : String) (value : Value) : Clause :=
  leaf (.wildcard field (.text ("*" ++ literalPattern value.display)))

end Clause

end SearchFilter
