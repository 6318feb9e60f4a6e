import SearchFilter.Clause
import SearchFilter.Json.Printer
import SearchFilter.Sort

/-!
# Compiled queries

What a set of parameters compiles to: a free-text clause if there is free text, the filters, the
sort order, and the fields to return.  `query` joins the clauses into one: free text ranks the
documents, filters only select them.  `body` is the request body, and `json` its text.
-/

namespace SearchFilter

/-- The result of compiling parameters. -/
structure CompiledQuery where
  freeText : Option Clause
  filters : List Clause
  sort : List SortField
  sourceFields : Option (List String)

namespace CompiledQuery

/-- The compiled query of no parameters. -/
def empty : CompiledQuery :=
  ⟨none, [], SortField.defaults, none⟩

/-- Whether nothing restricts the documents. -/
def matchesEverything (compiled : CompiledQuery) : Bool :=
  compiled.freeText.isNone && compiled.filters.isEmpty

/-- The one clause of a compiled query. -/
def query (compiled : CompiledQuery) : Clause :=
  match compiled.freeText, compiled.filters with
  | some text, [] => text
  | some text, filters => .ranked [text] filters
  | none, [] => .everything
  | none, filters => .allOf filters

/-- The fields to return, as a part of the request body; without any named, all are returned. -/
def sourcePart (compiled : CompiledQuery) : List (String × Value) :=
  match compiled.sourceFields with
  | some (field :: fields) => [("_source", .list ((field :: fields).map .text))]
  | _ => []

/-- The parts of the request body. -/
def bodyFields (compiled : CompiledQuery) : List (String × Value) :=
  [("query", compiled.query.toValue), ("sort", .list (compiled.sort.map SortField.toValue))] ++
    compiled.sourcePart

/-- The request body. -/
def body (compiled : CompiledQuery) : Value :=
  .record compiled.bodyFields

/-- The request body as JSON text. -/
def json (compiled : CompiledQuery) (layout : Json.Layout) : Except Failure String :=
  Json.render layout compiled.body

end CompiledQuery

end SearchFilter
