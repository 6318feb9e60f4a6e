/-!
# Requests and replies

What a client sends to a server and what comes back.  A server is any function from a request to a
reply that may change its own state.
-/

namespace SearchFilter.Http

/-- The methods used. -/
inductive Method where
  | get
  | post
deriving DecidableEq, Repr

/-- The word for a method. -/
def Method.word : Method → String
  | get => "GET"
  | post => "POST"

/-- A request. -/
structure Request where
  method : Method
  url : String
  body : String
  authorization : Option String
deriving DecidableEq, Repr

/-- The type of all request bodies and of the replies asked for. -/
def contentType : String := "application/json"

/-- A reply, or none. -/
inductive Reply where
  | unreachable
  | response (status : Nat) (body : String)
deriving DecidableEq, Repr

/-- Something that replies to requests, with a state of type `ω`. -/
abbrev Server (ω : Type) := Request → ω → Reply × ω

/-! ## A server that follows a script -/

/-- A server that gives prepared replies, the last one for ever, and keeps the requests. -/
structure Script where
  next : Reply
  later : List Reply
  /-- The requests so far, the last one first. -/
  log : List Request
deriving DecidableEq, Repr

/-- The reply to a request by script. -/
def Script.reply : Server Script := fun request script =>
  let log := request :: script.log
  match script.later with
  | [] => (script.next, { script with log })
  | next :: later => (script.next, ⟨next, later, log⟩)

end SearchFilter.Http
