import SearchFilter.Proofs.Client.Posted
import SearchFilter.Proofs.Search.Once

/-!
# The sign of a posted window

A client takes page numbers below one for the first page, and the number of results per page as it
comes.  So what it posts, for itself or for a search that asks it, has a window that begins before
the first hit exactly when the number per page is negative: `Posts.window_nonneg_iff`.

What one search of a client keeps of all requests so far (`AllAskFor.search`), a question to a
search keeps as well (`access_effect_backend`), and so does a sequence of questions
(`afterAsking_of_calls`).
-/

namespace SearchFilter

open SearchFilter.Http
open Value (field?)

namespace Client

/-! ## What a client posts -/

/-- A request whose body is a map with a window. -/
def AsksFor (first count : Int) (request : Request) : Prop :=
  ∃ payload, Json.render none (.map payload) = .ok request.body ∧
    field? "from" payload = some (.int first) ∧ field? "size" payload = some (.int count)

/-- A window that does not begin before the first hit, of a size that is not negative. -/
def IsNonneg (first count : Int) : Prop :=
  0 ≤ first ∧ 0 ≤ count

theorem isNonneg_iff (number count : Int) :
    IsNonneg (count * (max number 1 - 1)) count ↔ 0 ≤ count :=
  ⟨And.right, fun h => ⟨Int.mul_nonneg h (by omega), h⟩⟩

variable {α ω : Type} [Resolver α] {server : Server ω} {client : Client α} {index : String}
  {body page perPage : Value} {number count : Int}

/-- The payload for a page has the window of the page, whatever is in the body. -/
theorem exists_window_eq (entries : List (Value × Value)) (number count : Int) :
    ∃ payload, window entries number count = .map payload ∧
      field? "from" payload = some (.int (count * (number - 1))) ∧
      field? "size" payload = some (.int count) := by
  refine ⟨_, rfl, ?_, Value.field?_put_self _ _ _⟩
  exact (Value.field?_put_of_ne (by decide) _ _).trans (Value.field?_put_self _ _ _)

/-- A text that is sent for a search is that of a window. -/
theorem render_of_searchRequest (hpage : page.toInteger = .ok number)
    (hperPage : perPage.toInteger = .ok count) {text : String} {counted : Int × Int}
    (h : searchRequest body page perPage = .ok (text, counted)) :
    ∃ payload, Json.render none (.map payload) = .ok text ∧
      field? "from" payload = some (.int (count * (max number 1 - 1))) ∧
      field? "size" payload = some (.int count) := by
  obtain ⟨_, hnumber, h⟩ := bind_eq_ok h
  cases hnumber.symm.trans hpage
  obtain ⟨_, hcount, h⟩ := bind_eq_ok h
  cases hcount.symm.trans hperPage
  cases body with
  | map entries =>
    obtain ⟨payload, hwindow, hwindow'⟩ := exists_window_eq entries (max number 1) count
    obtain ⟨written, hwritten, h⟩ := bind_eq_ok h
    cases h
    exact ⟨payload, hwindow ▸ hwritten, hwindow'⟩
  | _ => cases h

variable (client) in
/-- A search of a client posts one request for the window of its page, or nothing. -/
theorem log_search (hpage : page.toInteger = .ok number) (hperPage : perPage.toInteger = .ok count)
    (state : ω) (log : List Request) :
    (client.search (recorded server) index body page perPage (state, log)).2.2 = log ∨
      ∃ request, AsksFor (count * (max number 1 - 1)) count request ∧
        (client.search (recorded server) index body page perPage (state, log)).2.2 =
          log ++ [request] := by
  rw [search]
  split
  · cases hrequest : searchRequest body page perPage with
    | error e => exact .inl rfl
    | ok sent =>
      obtain ⟨text, counted⟩ := sent
      dsimp only
      cases hbase : client.base with
      | none =>
        rw [send, hbase]
        exact .inl rfl
      | some base =>
        cases hresolve : Resolver.resolve base ("/" ++ index ++ "/_search") with
        | error e =>
          rw [send, hbase]
          dsimp only
          rw [hresolve]
          exact .inl rfl
        | ok address =>
          rw [send_recorded hbase hresolve]
          exact .inr ⟨_, render_of_searchRequest hpage hperPage hrequest, rfl⟩
  · exact .inl rfl

/-- All requests that are kept have one window. -/
def AllAskFor (first count : Int) (reached : ω × List Request) : Prop :=
  ∀ request ∈ reached.2, AsksFor first count request

theorem allAskFor_nil (first count : Int) (state : ω) : AllAskFor first count (state, []) :=
  List.forall_mem_nil _

/-- A search for a page keeps this of the window of the page. -/
theorem AllAskFor.search (hpage : page.toInteger = .ok number)
    (hperPage : perPage.toInteger = .ok count) {reached : ω × List Request}
    (h : AllAskFor (count * (max number 1 - 1)) count reached) :
    AllAskFor (count * (max number 1 - 1)) count
      (client.search (recorded server) index body page perPage reached).2 := by
  rw [AllAskFor]
  rcases log_search client hpage hperPage reached.1 reached.2 with
    hquiet | ⟨request, hasks, hposted⟩
  · rw [hquiet]
    exact h
  · rw [hposted]
    exact List.forall_mem_append.mpr ⟨h, List.forall_mem_singleton.mpr hasks⟩

end Client

/-! ## What a search has its backend post -/

namespace Search

section Questions

variable {σ : Type} {backend : Backend σ} {search : Search}

variable (backend search) in
/-- Asking for the page of results calls the backend once or not at all, with page and number per
page of the search. -/
theorem results_effect (state : σ) :
    search.SameRequest (search.results backend state).2.1 ∧
      ((search.results backend state).2.2 = state ∨
        ∃ index body, (search.results backend state).2.2 =
          (backend.search ⟨index, body, search.page, search.perPage⟩ state).2) := by
  rw [results]
  cases search.found with
  | some page => exact ⟨⟨rfl, rfl, rfl, rfl⟩, .inl rfl⟩
  | none =>
    cases search.compiler.model.index with
    | error e => exact ⟨⟨rfl, rfl, rfl, rfl⟩, .inl rfl⟩
    | ok index =>
      rcases compile_cases search with
        ⟨compiled, next, hcompile, _, _, hsame, _⟩ | ⟨e, next, hcompile, _, _, _, hsame⟩
      · simp only [hcompile, hsame.page, hsame.perPage]
        cases hanswer :
            backend.search ⟨index, compiled.body, search.page, search.perPage⟩ state with
        | mk answer state' =>
          have hcalled : (backend.search ⟨index, compiled.body, search.page, search.perPage⟩
            state).2 = state' := by rw [hanswer]
          cases answer with
          | error e => exact ⟨hsame, .inr ⟨index, compiled.body, hcalled.symm⟩⟩
          | ok page =>
            exact ⟨⟨hsame.params, hsame.compiler, rfl, rfl⟩,
              .inr ⟨index, compiled.body, hcalled.symm⟩⟩
      · rw [hcompile]
        exact ⟨hsame, .inl rfl⟩

variable (backend search) in
/-- A question to a search has the same effect, or none. -/
theorem access_effect_backend (access : Access) (state : σ) :
    search.SameRequest (search.access backend access state).2.1 ∧
      ((search.access backend access state).2.2 = state ∨
        ∃ index body, (search.access backend access state).2.2 =
          (backend.search ⟨index, body, search.page, search.perPage⟩ state).2) := by
  cases hpage : access.needsPage with
  | false =>
    rw [(access_of_not_needsPage backend hpage search state).1]
    rcases compile_cases search with
      ⟨_, _, hcompile, _, _, hsame, _⟩ | ⟨_, _, hcompile, _, _, _, hsame⟩
    all_goals
      rw [hcompile]
      exact ⟨hsame, .inl rfl⟩
  | true =>
    rw [access_of_needsPage hpage]
    exact results_effect backend search state

variable (backend) in
/-- What every call with page and number per page of a search keeps, all questions keep. -/
theorem afterAsking_of_calls {P : σ → Prop}
    (hcall : ∀ index body state, P state →
      P (backend.search ⟨index, body, search.page, search.perPage⟩ state).2)
    (questions : List Access) {now : Search} (hsame : search.SameRequest now) {state : σ}
    (hstate : P state) : P (afterAsking backend questions (now, state)).2 := by
  induction questions generalizing now state with
  | nil => exact hstate
  | cons access rest ih =>
    obtain ⟨hnext, heffect⟩ := access_effect_backend backend now access state
    refine ih (hsame.trans hnext) ?_
    rcases heffect with hquiet | ⟨index, body, hcalled⟩
    · rw [hquiet]
      exact hstate
    · rw [hcalled, hsame.page, hsame.perPage]
      exact hcall index body state hstate

end Questions

/-- A new search has the integers that were given, or their defaults. -/
theorem make_eq_ok {compiler : Compiler} {params page perPage : Value} {search : Search}
    (h : make compiler params page perPage = .ok search) :
    integerOr 1 page = .ok search.page ∧
      integerOr compiler.settings.defaultPerPage perPage = .ok search.perPage := by
  obtain ⟨entries, _, h⟩ := bind_eq_ok h
  obtain ⟨number, hnumber, h⟩ := bind_eq_ok h
  obtain ⟨count, hcount, h⟩ := bind_eq_ok h
  cases h
  exact ⟨hnumber, hcount⟩

end Search

/-! ## Both layers -/

namespace Client

variable {α ω : Type} [Resolver α]

/-- A request that a client posts for a page number and a number per page, which are given to itself
or to a search that asks it. -/
inductive Posts (server : Server ω) (client : Client α) (number count : Int) (request : Request) :
    Prop
  | given {index : String} {body page perPage : Value} {state : ω}
      (hpage : page.toInteger = .ok number) (hperPage : perPage.toInteger = .ok count)
      (hsent : request ∈
        (client.search (recorded server) index body page perPage (state, [])).2.2)
  | asked {compiler : Compiler} {params page perPage : Value} {search : Search}
      {questions : List Search.Access} {state : ω}
      (hmake : Search.make compiler params page perPage = .ok search)
      (hpage : Search.integerOr 1 page = .ok number)
      (hperPage : Search.integerOr compiler.settings.defaultPerPage perPage = .ok count)
      (hsent : request ∈ (Search.afterAsking (client.backend (recorded server)) questions
        (search, state, [])).2.2)

variable {server : Server ω} {client : Client α} {number count : Int} {request : Request}

/-- Every request that is posted has the window of its page, and this is not negative exactly when
the number per page is not. -/
theorem Posts.window_nonneg_iff (h : Posts server client number count request) :
    ∃ first size, AsksFor first size request ∧ first = count * (max number 1 - 1) ∧
      size = count ∧ (IsNonneg first size ↔ 0 ≤ count) := by
  refine ⟨_, _, ?_, rfl, rfl, isNonneg_iff number count⟩
  cases h with
  | @given index body page perPage state hpage hperPage hsent =>
    exact (allAskFor_nil _ _ state).search hpage hperPage request hsent
  | @asked compiler params page perPage search questions state hmake hpage hperPage hsent =>
    obtain ⟨hnumber, hcount⟩ := Search.make_eq_ok hmake
    cases hpage.symm.trans hnumber
    cases hperPage.symm.trans hcount
    have hlog := Search.afterAsking_of_calls (client.backend (recorded server))
      (P := AllAskFor (search.perPage * (max search.page 1 - 1)) search.perPage)
      (fun _ _ _ hreached => hreached.search rfl rfl) questions ⟨rfl, rfl, rfl, rfl⟩
      (allAskFor_nil _ _ state)
    exact hlog request hsent

/-- The request that a client posts for a page of articles. -/
def articlesRequest (body : String) : Request :=
  ⟨.post, "http://localhost:9200/articles/_search", body, none⟩

/-- Page and number per page may be texts. -/
theorem window_nonneg_iff_thirdPage :
    Posts counting localClient 3 10 (articlesRequest "\x7b\"from\": 20, \"size\": 10\x7d") ∧
      ∃ first size, AsksFor first size
          (articlesRequest "\x7b\"from\": 20, \"size\": 10\x7d") ∧
        first = 10 * (max 3 1 - 1) ∧ size = 10 ∧ (IsNonneg first size ↔ 0 ≤ (10 : Int)) := by
  have hlog : (localClient.search (recorded counting) "articles" (.map []) (.text "3")
      (.text "10") ((), [])).2.2 =
        [articlesRequest "\x7b\"from\": 20, \"size\": 10\x7d"] := by decide +kernel
  have hposts : Posts counting localClient 3 10
      (articlesRequest "\x7b\"from\": 20, \"size\": 10\x7d") :=
    .given (by decide +kernel) (by decide +kernel) (hlog ▸ List.mem_singleton_self _)
  exact ⟨hposts, hposts.window_nonneg_iff⟩

/-- A negative number per page is posted as it comes. -/
theorem not_nonneg_of_negativePerPage :
    Posts counting localClient 3 (-5)
        (articlesRequest "\x7b\"from\": -10, \"size\": -5\x7d") ∧
      AsksFor (-10) (-5) (articlesRequest "\x7b\"from\": -10, \"size\": -5\x7d") ∧
      ¬ IsNonneg (-10) (-5) := by
  have hlog : (localClient.search (recorded counting) "articles" (.map []) (.text "3")
      (.text "-5") ((), [])).2.2 =
        [articlesRequest "\x7b\"from\": -10, \"size\": -5\x7d"] := by decide +kernel
  refine ⟨.given (by decide +kernel) (by decide +kernel) (hlog ▸ List.mem_singleton_self _), ?_,
    fun h => absurd h.1 (by decide)⟩
  exact ⟨[(.text "from", .int (-10)), (.text "size", .int (-5))], rfl, rfl, rfl⟩

end Client

end SearchFilter
