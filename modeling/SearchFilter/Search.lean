import SearchFilter.Backend
import SearchFilter.Compiler

/-!
# Searches

A search joins a model, parameters and a page number.  It is compiled and sent when something is
first asked of it, and what has been compiled or found is kept: `compiled` and `found` hold it.  A
failure is not kept, so the next question tries again.

`Search.access` answers the questions that can be asked of a search, with any backend.
-/

namespace SearchFilter

/-- A search and what is known of it so far. -/
structure Search where
  params : List (Value × Value)
  compiler : Compiler
  page : Int
  perPage : Int
  /-- The locales still to come. -/
  locales : LocaleSource
  compiled : Option CompiledQuery
  found : Option Page

namespace Search

/-! ## Making and changing -/

/-- The integer of a value, or a default for values that are not filled. -/
def integerOr (default : Int) (v : Value) : Except Failure Int :=
  if v.isFilled then v.toInteger else .ok default

/-- A search that has not been compiled.  Page and number per page may be given as text; values that
are not filled count as not given. -/
def make (compiler : Compiler) (params page perPage : Value) : Except Failure Search := do
  let entries ← params.entriesOrNone
  let number ← integerOr 1 page
  let count ← integerOr compiler.settings.defaultPerPage perPage
  return ⟨entries, compiler, number, count, compiler.settings.locale, none, none⟩

/-- Gives a parameter a value. -/
def putParam (search : Search) (key : String) (value : Value) : Search :=
  { search with params := Entries.put (.text key) value search.params }

/-- Removes a parameter. -/
def eraseParam (search : Search) (key : String) : Search :=
  { search with params := Entries.erase (.text key) search.params }

/-- Goes to another page. -/
def toPage (search : Search) (page : Int) : Search :=
  { search with page }

/-! ## Compiling and searching once -/

/-- The compiled query, compiled now unless it is known. -/
def compile (search : Search) : Except Failure CompiledQuery × Search :=
  match search.compiled with
  | some compiled => (.ok compiled, search)
  | none =>
    let result := search.compiler.compile (Params.ofEntries search.params) search.locales
    match result.1 with
    | .ok compiled =>
      (.ok compiled, { search with compiled := some compiled, locales := result.2 })
    | .error e => (.error e, { search with locales := result.2 })

/-- The page of results, searched for now unless it is known. -/
def results {σ : Type} (backend : Backend σ) (search : Search) (state : σ) :
    Except Failure Page × Search × σ :=
  match search.found with
  | some page => (.ok page, search, state)
  | none =>
    match search.compiler.model.index with
    | .error e => (.error e, search, state)
    | .ok index =>
      match search.compile with
      | (.error e, search) => (.error e, search, state)
      | (.ok compiled, search) =>
        match backend.search ⟨index, compiled.body, search.page, search.perPage⟩ state with
        | (.error e, state) => (.error e, search, state)
        | (.ok page, state) => (.ok page, { search with found := some page }, state)

/-! ## Questions -/

/-- What can be asked of a search: how it was compiled, or something of its page of results. -/
inductive Access where
  | compiled
  | sorts
  | page
  | result (question : Page.Question)
deriving DecidableEq, Repr

/-- An answer. -/
inductive Answer where
  | compiled (query : CompiledQuery)
  | sorts (criteria : List SortField)
  | page (page : Page)
  | value (value : Value)

/-- Answers a question, and gives the search and the backend as they are left. -/
def access {σ : Type} (backend : Backend σ) (search : Search) (access : Access) (state : σ) :
    Except Failure Answer × Search × σ :=
  match access with
  | .compiled =>
    let result := search.compile
    (result.1.map .compiled, result.2, state)
  | .sorts =>
    let result := search.compile
    (result.1.map fun compiled => .sorts compiled.sort, result.2, state)
  | .page =>
    let result := search.results backend state
    (result.1.map .page, result.2)
  | .result question =>
    let result := search.results backend state
    (result.1.bind fun page => (page.answer question).map .value, result.2)

/-- The label of an attribute of the model. -/
def label (search : Search) (name : String) : Except Failure Value :=
  search.compiler.model.label name

end Search

end SearchFilter
