import SearchFilter.Proofs.Client.Answers
import SearchFilter.Proofs.Client.Window
import SearchFilter.Proofs.Page.Windows

/-!
# Servers that answer with slices

A server with a list of hits answers a search with the slice that the request asks for, and reports
the number of all hits (`Slices`).  The client makes a page of the answer that is a window of the
hits: `exists_search`.  `recorded` keeps the requests, to count them.

`slicing` is such a server for every list of hits that JSON can tell apart (`slices_slicing`).
-/

namespace SearchFilter

open SearchFilter.Http SearchFilter.Number
open Value (textEntries field?)

/-- The server that also keeps a list of its requests, the last one at the end. -/
def Http.recorded {ω : Type} (server : Server ω) : Server (ω × List Request) :=
  fun request state =>
    let answered := server request state.1
    (answered.1, answered.2, state.2 ++ [request])

namespace Client

variable {α ω : Type} [Resolver α] {server : Server ω} {client : Client α} {index url : String}
  {hits : List Value}

/-! ## Responses -/

/-- A number of entries, as it is or under a name. -/
inductive Counts (total : Nat) : Value → Prop
  | number : Counts total (.int total)
  | named {entries : List (Value × Value)} (hvalue : field? "value" entries = some (.int total)) :
      Counts total (.map entries)

/-- A response with a list of hits, that reports the number of all. -/
inductive Reports (total : Nat) (found : List Value) : Value → Prop
  | intro {entries outer : List (Value × Value)} {count : Value}
      (houter : field? "hits" entries = some (.map outer))
      (hcount : field? "total" outer = some count) (htotal : Counts total count)
      (hfound : field? "hits" outer = some (.list found)) : Reports total found (.map entries)

theorem Counts.tallies {total : Nat} {count : Value} (h : Counts total count) :
    Tallies (some count) total := by
  cases h with
  | number => exact .number _
  | @named entries hvalue => exact @Tallies.named entries (some total) hvalue

/-- A report is an answer that leaves nothing out. -/
theorem Reports.answers {total : Nat} {found : List Value} {response : Value}
    (h : Reports total found response) : Answers response found total := by
  obtain @⟨entries, outer, count, houter, hcount, htotal, hfound⟩ := h
  have htallies : Tallies (field? "total" outer) total := hcount ▸ htotal.tallies
  exact @Answers.intro entries (some outer) (some found) total houter hfound htallies

/-- The page made from a response has its hits and its number of entries. -/
theorem Reports.pageOf {total : Nat} {found : List Value} {response : Value}
    (h : Reports total found response) (number perPage : Int) :
    pageOf response number perPage = .ok ⟨.list found, total, perPage, number, response⟩ :=
  h.answers.pageOf number perPage

/-! ## Servers -/

/-- The server answers every search that is sent to an address with the slice that is asked for. -/
def Slices (server : Server ω) (url : String) (hits : List Value) : Prop :=
  ∀ request state entries, ∀ first count : Nat,
    request.method = .post → request.url = url → Json.parse request.body = .ok (.map entries) →
    field? "from" entries = some (.int first) → field? "size" entries = some (.int count) →
    ∃ status body response, (server request state).1 = .response status body ∧
      200 ≤ status ∧ status < 300 ∧ Json.parse body = .ok response ∧
      Reports hits.length ((hits.drop first).take count) response

/-- An open client sends the searches of an index to an address from which it takes replies. -/
structure Reaches (client : Client α) (index url : String) : Prop where
  exists_address : ∃ base address, client.base = some base ∧
    Resolver.resolve base ("/" ++ index ++ "/_search") = .ok address ∧
    Resolver.text address = url ∧ Resolver.refusal? address = none

omit [Resolver α] in
/-- A request with a window is answered with that window. -/
theorem exists_read (hslices : Slices server url hits)
    {request : Request} (hmethod : request.method = .post) (hurl : request.url = url)
    {entries : List (Value × Value)} (hparse : Json.parse request.body = .ok (.map entries))
    {first count : Nat} (hfirst : field? "from" entries = some (.int first))
    (hcount : field? "size" entries = some (.int count)) (state : ω) :
    ∃ response, Reply.read none (server request state).1 = .ok response ∧
      Reports hits.length ((hits.drop first).take count) response := by
  obtain ⟨status, body, response, hreply, hleast, hgreatest, hread, hreports⟩ :=
    hslices request state entries first count hmethod hurl hparse hfirst hcount
  refine ⟨response, ?_, hreports⟩
  have hstatus : (200 ≤ status && status < 300) = true := by simp [hleast, hgreatest]
  rw [hreply, Reply.read, if_pos hstatus]
  exact hread

theorem searchRequest_eq {fields : List (String × Value)} {number perPage : Nat} {text : String}
    (hnumber : 1 ≤ number)
    (h : Json.render none (window (textEntries fields) number perPage) = .ok text) :
    searchRequest (.record fields) (.int number) (.int perPage) =
      .ok (text, (number : Int), (perPage : Int)) := by
  have hmax : max (number : Int) 1 = number := max_eq_left (by exact_mod_cast hnumber)
  rw [searchRequest_record, hmax, h]
  rfl

/-- A search for a page finds the window of the page, with one request. -/
theorem exists_search (hreaches : Reaches client index url) (hslices : Slices server url hits)
    {fields : List (String × Value)} (hbody : IsBody fields) {perPage number : Nat}
    (hnumber : 1 ≤ number)
    (hfrom : (numeral (perPage * (number - 1))).length ≤ digitLimit)
    (hsize : (numeral perPage).length ≤ digitLimit) (state : ω) (log : List Request) :
    ∃ page state' request,
      client.search (recorded server) index (.record fields) (.int number) (.int perPage)
          (state, log) = (.ok page, state', log ++ [request]) ∧
        Page.IsWindow hits perPage number page := by
  have hfirst : (perPage : Int) * (number - 1) = (perPage * (number - 1) : Nat) := by
    rw [Nat.cast_mul, Nat.cast_sub hnumber, Nat.cast_one]
  obtain ⟨text, entries, htext, hparse, hfrom', hsize'⟩ :=
    exists_parse_window hbody number perPage (by rwa [hfirst, Int.natAbs_natCast]) hsize
  rw [hfirst] at hfrom'
  obtain ⟨base, address, hbase, hresolve, haddress, htaken⟩ := hreaches.exists_address
  have hopen : client.isOpen = true := by rw [isOpen, hbase, Option.isSome_some]
  have hurl : (client.request address .post text).url = url := haddress
  obtain ⟨response, hread, hreports⟩ := exists_read hslices rfl hurl hparse hfrom' hsize' state
  have hsend : client.send (recorded server) .post ("/" ++ index ++ "/_search") text (state, log) =
      (.ok response, (server (client.request address .post text) state).2,
        log ++ [client.request address .post text]) := by
    rw [send, hbase]
    dsimp only
    rw [hresolve]
    dsimp only [recorded]
    rw [htaken, hread]
  refine ⟨⟨.list (Page.window hits perPage number), hits.length, perPage, number, response⟩,
    (server (client.request address .post text) state).2, client.request address .post text, ?_,
    rfl, rfl, rfl, rfl⟩
  rw [search, if_pos hopen, searchRequest_eq hnumber htext]
  dsimp only
  rw [hsend]
  exact congrArg (·, _) (hreports.pageOf number perPage)

/-! ## A server that slices -/

/-- A value that is read as it was written. -/
structure IsPlain (value : Value) : Prop where
  writable : Json.Writable value
  inFormat : value.inFormat = true
  reread_eq : Json.reread value = value

theorem isPlain_text (s : String) : IsPlain (.text s) :=
  ⟨.text s, rfl, rfl⟩

theorem isPlain_int {n : Int} (h : (numeral n.natAbs).length ≤ digitLimit) : IsPlain (.int n) :=
  ⟨.int h, rfl, rfl⟩

theorem isPlain_list {items : List Value} (h : ∀ item ∈ items, IsPlain item) :
    IsPlain (.list items) := by
  refine ⟨.list fun item hitem => (h item hitem).writable, ?_, ?_⟩
  · rw [Value.inFormat]
    induction items with
    | nil => rfl
    | cons item rest ih =>
      obtain ⟨hfirst, hrest⟩ := List.forall_mem_cons.mp h
      rw [Value.allInFormat, hfirst.inFormat, ih hrest]
      rfl
  · rw [Json.reread]
    congr 1
    induction items with
    | nil => rfl
    | cons item rest ih =>
      obtain ⟨hfirst, hrest⟩ := List.forall_mem_cons.mp h
      rw [Json.rereadItems, hfirst.reread_eq, ih hrest]

theorem isPlain_record {fields : List (String × Value)} (hdistinct : (fields.map Prod.fst).Nodup)
    (h : ∀ field ∈ fields, IsPlain field.2) : IsPlain (.record fields) := by
  refine ⟨Json.writable_record fun field hfield => (h field hfield).writable,
    Json.inFormat_record.mpr fun field hfield => (h field hfield).inFormat, ?_⟩
  have hfields : fields.map (fun field => (field.1, Json.reread field.2)) = fields.map id :=
    List.map_congr_left fun field hfield => by rw [(h field hfield).reread_eq, id]
  rw [Json.reread_record hdistinct, hfields, List.map_id]

theorem IsPlain.parse_eq {value : Value} (h : IsPlain value) {layout : Json.Layout} {text : String}
    (htext : Json.render layout value = .ok text) : Json.parse text = .ok value := by
  rw [Json.parse_render h.inFormat htext, h.reread_eq]

/-- The response with a slice of hits. -/
def sliceResponse (hits : List Value) (first count : Nat) : Value :=
  .record [("hits", .record [("total", .record [("value", .int hits.length)]),
    ("hits", .list ((hits.drop first).take count))])]

/-- The reply to a search, by the window in the text of the request. -/
def sliceReply (hits : List Value) (text : String) : Reply :=
  match Json.parse text with
  | .ok (.map entries) =>
    match field? "from" entries, field? "size" entries with
    | some (.int first), some (.int count) =>
      match Json.render none (sliceResponse hits first.toNat count.toNat) with
      | .ok body => .response 200 body
      | .error _ => .unreachable
    | _, _ => .unreachable
  | _ => .unreachable

/-- A server that answers searches with slices of a list of hits. -/
def slicing (hits : List Value) : Server Unit := fun request state =>
  (sliceReply hits request.body, state)

theorem slices_slicing (h : ∀ hit ∈ hits, IsPlain hit)
    (hlength : (numeral hits.length).length ≤ digitLimit) (url : String) :
    Slices (slicing hits) url hits := by
  intro request state entries first count _ _ hparse hfirst hcount
  have hslice : IsPlain (.list ((hits.drop first).take count)) :=
    isPlain_list fun hit hhit => h hit (List.mem_of_mem_drop (List.mem_of_mem_take hhit))
  have htotal : IsPlain (.int hits.length) := isPlain_int hlength
  have hplain : IsPlain (sliceResponse hits first count) := by
    refine isPlain_record (by simp) (List.forall_mem_singleton.mpr ?_)
    refine isPlain_record (by simp) ?_
    rw [List.forall_mem_cons, List.forall_mem_singleton]
    exact ⟨isPlain_record (by simp) (List.forall_mem_singleton.mpr htotal), hslice⟩
  obtain ⟨body, hbody⟩ := hplain.writable.exists_render none
  refine ⟨200, body, _, ?_, by decide, by decide, hplain.parse_eq hbody,
    .intro rfl rfl (.named rfl) rfl⟩
  rw [slicing, sliceReply, hparse]
  dsimp only
  rw [hfirst, hcount]
  dsimp only
  rw [Int.toNat_natCast, Int.toNat_natCast, hbody]

end Client

end SearchFilter
