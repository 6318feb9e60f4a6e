import SearchFilter.Client
import SearchFilter.Search

/-!
# Commands

The command line has two commands.

* `compile QUERY` prints the request body that a query string compiles to.
* `search QUERY --index INDEX` asks a server for the mapping of an index, searches the index, and
  prints the records found.

`runCompile` and `runSearch` give what is printed and the exit code: 1 for a date that cannot be
read, a field type that is not written `name=type`, or a server that does not answer as it should.
All other failures are not caught.
-/

namespace SearchFilter.Cli

open SearchFilter.Http

/-! ## Commands -/

/-- The arguments of `compile`. -/
structure CompileCommand where
  query : String
  types : List String
  fields : List String
  locale : Option String
  globalize : Bool
deriving DecidableEq, Repr

/-- The arguments of `search`. -/
structure SearchCommand where
  query : String
  index : String
  url : Option String
  page : Int
  perPage : Option Int
  fields : List String
  locale : Option String
deriving DecidableEq, Repr

/-- A command with its arguments. -/
inductive Command where
  | compile (command : CompileCommand)
  | search (command : SearchCommand)
deriving DecidableEq, Repr

/-! ## Outcomes -/

/-- What a command leaves behind. -/
structure Outcome where
  exitCode : Nat
  stdout : String
  stderr : String
deriving DecidableEq, Repr

/-- A command that has done its work. -/
def Outcome.success (text : String) : Outcome :=
  ⟨0, text ++ "\n", ""⟩

/-- A command that stops with an error. -/
def Outcome.error (message : String) : Outcome :=
  ⟨1, "", "Error: " ++ message ++ "\n"⟩

/-- The failures that end a command with an error message. -/
def isReported : Failure → Bool
  | .unreadableDate _ _ => true
  | .connectionFailed => true
  | .badStatus _ => true
  | _ => false

/-- The outcome of a result: some failures are reported, the others are not caught. -/
def conclude (result : Except Failure String) : Except Failure Outcome :=
  match result with
  | .ok text => .ok (.success text)
  | .error e => if isReported e then .ok (.error e.message) else .error e

/-! ## Compiling -/

/-- The field types declared on the command line, or the first one that is not written
`name=type`. -/
def readTypes : List String → Params → Except String Params
  | [], types => .ok types
  | item :: rest, types =>
    match Text.cutAt '=' item.toList with
    | (name@(_ :: _), some (type@(_ :: _))) =>
      readTypes rest (Entries.put (String.ofList name) (.text (String.ofList type)) types)
    | _ => .error item

/-- The model with the declared field types, if there are any. -/
def modelOf (types : Params) : Model :=
  if types.isEmpty then .absent
  else .indexed "_cli" (some (types.map fun entry => (.text entry.1, entry.2))) []

/-- The request body of a query, as text. -/
def compileText (model : Model) (command : CompileCommand) : Except Failure String :=
  let compiler := Compiler.make model
    ⟨command.globalize, none, command.locale, some command.fields⟩ .default
  (compiler.compile (Params.ofQuery command.query) compiler.settings.locale).1.bind
    fun compiled => compiled.json (some 2)

/-- Runs `compile`. -/
def runCompile (command : CompileCommand) : Except Failure Outcome :=
  match readTypes command.types [] with
  | .error item =>
    .ok (.error ("Invalid field type " ++ Text.quoted item ++ ", expected name=type"))
  | .ok types => conclude (compileText (modelOf types) command)

/-! ## Searching -/

/-- The search of a command, on an index with the given mapping. -/
def searchWith (command : SearchCommand) (mapping : Value) : Except Failure Search := do
  let model ← Model.ofMapping command.index mapping .null
  let compiler := Compiler.make model
    ⟨true, none, command.locale, some command.fields⟩ .default
  let params := (Params.ofQuery command.query).map fun entry => (Value.text entry.1, entry.2)
  Search.make compiler (.map params) (.int command.page) (Page.optionalNumber command.perPage)

/-- What is printed of a page of results. -/
def summary (page : Page) : Except Failure String := do
  let records ← page.records
  let total ← page.totalPages
  Json.render (some 2)
    (.record [("records", .list records), ("total", .int page.totalEntries),
      ("page", .int page.currentPage), ("total_pages", .int total)])

/-- Runs `search` with a client whose addresses are of type `α`. -/
def runSearch (α : Type) [Resolver α] {ω : Type} (server : Server ω) (environment : Environment)
    (command : SearchCommand) (state : ω) : Except Failure Outcome × ω :=
  match (Client.make command.url none environment : Client α).enter with
  | .error e => (conclude (.error e), state)
  | .ok client =>
    let asked := client.mapping server command.index state
    match asked.1.bind (searchWith command) with
    | .error e => (conclude (.error e), asked.2)
    | .ok search =>
      let answered := search.results (client.backend server) asked.2
      (conclude (answered.1.bind summary), answered.2.2)

end SearchFilter.Cli
