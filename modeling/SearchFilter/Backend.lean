import SearchFilter.Page

/-!
# Backends

A backend answers search requests with pages.  Answering may change the state of the backend, and
may fail.

`Backend.canned` always gives the same hits, after refusing a number of searches; it keeps the list
of the searches it was asked for.
-/

namespace SearchFilter

/-- A search as a backend sees it. -/
structure SearchCall where
  index : String
  body : Value
  page : Int
  perPage : Int

/-- Something that answers searches, with a state of type `σ`. -/
structure Backend (σ : Type) where
  search : SearchCall → σ → Except Failure Page × σ

/-- The state of a backend with fixed hits. -/
structure Canned where
  hits : Value
  total : Int
  /-- How many searches are still refused. -/
  refusals : Nat
  /-- The searches so far, the last one first. -/
  log : List SearchCall

/-- The backend with fixed hits. -/
def Backend.canned : Backend Canned where
  search call state :=
    let logged := { state with log := call :: state.log }
    match state.refusals with
    | refusals + 1 => (.error .searchRefused, { logged with refusals })
    | 0 => (.ok ⟨state.hits, state.total, call.perPage, call.page, .map []⟩, logged)

end SearchFilter
