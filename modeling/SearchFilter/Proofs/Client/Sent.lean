import SearchFilter.Proofs.Client.Slices

/-!
# What a client sends

Which requests reach a server that keeps them (`recorded`), when an open client asks for a mapping
(`exists_mapping_recorded`) or searches (`search_recorded`).  A search whose request body cannot be
written sends nothing (`search_of_error`).
-/

namespace SearchFilter.Client

open SearchFilter.Http

variable {α ω : Type} [Resolver α] {server : Server ω} {client : Client α} {base address : α}

/-- An open client sends one request, if the path can be resolved. -/
theorem send_recorded (hbase : client.base = some base) {path : String}
    (hresolve : Resolver.resolve base path = .ok address) (method : Method) (body : String)
    (state : ω) (log : List Request) :
    client.send (recorded server) method path body (state, log) =
      ((client.send server method path body state).1,
        (client.send server method path body state).2,
        log ++ [client.request address method body]) := by
  rw [send, send, hbase]
  dsimp only
  rw [hresolve]
  rfl

/-- A mapping that has come was asked for with one request. -/
theorem exists_mapping_recorded {index : String} {mapping : Value} {state state' : ω}
    (h : client.mapping server index state = (.ok mapping, state')) :
    ∃ base address, client.base = some base ∧
      Resolver.resolve base ("/" ++ index ++ "/_mapping") = .ok address ∧
      ∀ log, client.mapping (recorded server) index (state, log) =
        (.ok mapping, state', log ++ [client.request address .get ""]) := by
  cases hbase : client.base with
  | none =>
    rw [Client.mapping, send, hbase] at h
    cases h
  | some base =>
    cases hresolve : Resolver.resolve base ("/" ++ index ++ "/_mapping") with
    | error e =>
      rw [Client.mapping, send, hbase] at h
      dsimp only at h
      rw [hresolve] at h
      cases h
    | ok address =>
      refine ⟨base, address, rfl, hresolve, fun log => ?_⟩
      rw [Client.mapping, Prod.mk.injEq] at h
      rw [Client.mapping, send_recorded hbase hresolve]
      exact Prod.ext h.1 (Prod.ext h.2 rfl)

variable (server) in
/-- A search whose request body can be written sends it, and makes a page of what comes back. -/
theorem search_recorded (hbase : client.base = some base) {index : String}
    (hresolve : Resolver.resolve base ("/" ++ index ++ "/_search") = .ok address)
    {body page perPage : Value} {text : String} {number count : Int}
    (hrequest : searchRequest body page perPage = .ok (text, number, count)) (state : ω)
    (log : List Request) :
    client.search (recorded server) index body page perPage (state, log) =
      let request := client.request address .post text
      let answered := server request state
      ((Reply.read (Resolver.refusal? address) answered.1).bind fun response =>
          pageOf response number count,
        answered.2, log ++ [request]) := by
  have hopen : client.isOpen = true := by rw [isOpen, hbase, Option.isSome_some]
  rw [search, if_pos hopen, hrequest]
  dsimp only
  rw [send, hbase]
  dsimp only
  rw [hresolve]
  rfl

/-- A search whose request body cannot be written sends nothing. -/
theorem search_of_error (hbase : client.base = some base) {index : String}
    {body page perPage : Value} {e : Failure}
    (hrequest : searchRequest body page perPage = .error e) (state : ω) :
    client.search server index body page perPage state = (.error e, state) := by
  have hopen : client.isOpen = true := by rw [isOpen, hbase, Option.isSome_some]
  rw [search, if_pos hopen, hrequest]

end SearchFilter.Client
