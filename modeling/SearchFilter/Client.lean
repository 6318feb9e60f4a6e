import SearchFilter.Backend
import SearchFilter.Coercion
import SearchFilter.Http
import SearchFilter.Json.Printer
import SearchFilter.Json.Reader
import SearchFilter.Resolver

/-!
# The client of a search server

A client knows the address of a server and a key, and is open or closed.  Opening it reads the
address, so it can fail.  An open client posts searches to `/INDEX/_search` and asks for mappings at
`/INDEX/_mapping`, below that address; a closed client sends nothing.  Addresses are those of any
`Resolver`.

The window of a search is its page: `from` and `size` in the request body.
-/

namespace SearchFilter

open SearchFilter.Http

/-- The values of the environment that a client looks at. -/
structure Environment where
  url : Option String
  apiKey : Option String

/-- A client of a search server, with addresses of type `α`. -/
structure Client (α : Type) where
  url : String
  apiKey : Option String
  /-- The address below which an open client sends its requests. -/
  base : Option α
deriving DecidableEq, Repr

namespace Client

variable {α : Type}

/-! ## Making, opening and closing -/

/-- The address used when none is given. -/
def defaultUrl : String := "http://localhost:9200"

/-- A text that is given and not empty. -/
def nonempty (s : Option String) : Option String :=
  s.filter (fun s => !s.isEmpty)

/-- An address without slashes at its end. -/
def trimUrl (url : String) : String :=
  String.ofList (Text.dropTrailing (· == '/') url.toList)

/-- A closed client.  What is not given is taken from the environment. -/
def make (url apiKey : Option String) (environment : Environment) : Client α where
  url := trimUrl (((nonempty url).or (nonempty environment.url)).getD defaultUrl)
  apiKey := nonempty ((nonempty apiKey).or environment.apiKey)
  base := none

/-- Whether a client is open. -/
def isOpen (client : Client α) : Bool :=
  client.base.isSome

/-- Opens the client.  Its address must be one, and its key must be ASCII. -/
def enter [Resolver α] (client : Client α) : Except Failure (Client α) := do
  let base ← Resolver.base client.url
  if client.apiKey.all (·.toList.all Text.isAscii) then return { client with base := some base }
  else throw .notAscii

/-- Closes the client, if it is open. -/
def exit (client : Client α) : Client α :=
  { client with base := none }

/-! ## Sending -/

/-- The request of a client.  Name and password in the address take precedence over the key. -/
def request [Resolver α] (client : Client α) (address : α) (method : Method) (body : String) :
    Request where
  method := method
  url := Resolver.text address
  body := body
  authorization := (Resolver.authorization address).or (client.apiKey.map ("ApiKey " ++ ·))

/-- What a reply says: the value of its body, if there is no reason to refuse it and the status is
one of success. -/
def Reply.read (refusal : Option Failure) : Reply → Except Failure Value
  | .unreachable => .error .connectionFailed
  | .response status body =>
    match refusal with
    | some e => .error e
    | none => if 200 ≤ status && status < 300 then Json.parse body else .error (.badStatus status)

/-- Sends a request for a path below the address of the client, if the client is open. -/
def send [Resolver α] {ω : Type} (server : Server ω) (client : Client α) (method : Method)
    (path body : String) (state : ω) : Except Failure Value × ω :=
  match client.base with
  | none => (.error .clientClosed, state)
  | some base =>
    match Resolver.resolve base path with
    | .error e => (.error e, state)
    | .ok address =>
      let answered := server (client.request address method body) state
      (Reply.read (Resolver.refusal? address) answered.1, answered.2)

/-! ## Searching -/

/-- The request body for a page: the window is replaced if the body has one. -/
def window (body : List (Value × Value)) (page perPage : Int) : Value :=
  .map (Entries.putAll body
    [(.text "from", .int (perPage * (page - 1))), (.text "size", .int perPage)])

/-- The number of entries that a response reports, as a number or as a map with a value. -/
def totalOf (hits : Value) : Except Failure Value := do
  match ← hits.getOr "total" (.int 0) with
  | .map entries => return (Value.field? "value" entries).getD (.int 0)
  | total => return total

/-- The page made from a response. -/
def pageOf (response : Value) (page perPage : Int) : Except Failure Page := do
  let outer ← response.getOr "hits" (.map [])
  let total ← totalOf outer
  let hits ← outer.getOr "hits" (.list [])
  match hits.elements? with
  | none => .error .wrongType
  | some _ => return ⟨hits, ← total.toInteger, perPage, page, response⟩

/-- The text and the page number of a search request. -/
def searchRequest (body page perPage : Value) : Except Failure (String × Int × Int) := do
  let number := max (← page.toInteger) 1
  let count ← perPage.toInteger
  match body with
  | .map entries => return (← Json.render none (window entries number count), number, count)
  | _ => .error .wrongType

/-- Searches an index and gives a page of results.  Page numbers below one mean the first page. -/
def search [Resolver α] {ω : Type} (server : Server ω) (client : Client α) (index : String)
    (body page perPage : Value) (state : ω) : Except Failure Page × ω :=
  if client.isOpen then
    match searchRequest body page perPage with
    | .error e => (.error e, state)
    | .ok (text, number, count) =>
      let answered := client.send server .post ("/" ++ index ++ "/_search") text state
      (answered.1.bind fun response => pageOf response number count, answered.2)
  else (.error .clientClosed, state)

/-- The mapping of an index in a response, which is under the name of the index or, for an alias,
under another name. -/
def mappingOf (index : String) (response : Value) : Except Failure Value := do
  if ← response.mentions index then response.member index
  else match ← response.toEntries with
    | [] => return .map []
    | (_, mapping) :: _ => return mapping

/-- Asks for the mapping of an index. -/
def mapping [Resolver α] {ω : Type} (server : Server ω) (client : Client α) (index : String)
    (state : ω) : Except Failure Value × ω :=
  let answered := client.send server .get ("/" ++ index ++ "/_mapping") "" state
  (answered.1.bind (mappingOf index), answered.2)

/-- A client as a backend. -/
def backend [Resolver α] {ω : Type} (server : Server ω) (client : Client α) : Backend ω where
  search call state :=
    client.search server call.index call.body (.int call.page) (.int call.perPage) state

end Client

end SearchFilter
