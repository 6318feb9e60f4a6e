import SearchFilter.Proofs.Results
import SearchFilter.Search

/-!
# A search is sent once

A search is compiled and sent when something is first asked of it that needs this, and whatever is
asked later is answered from what is known.  To say how often the backend is called, a recording
backend (`Backend.recorded`) keeps the list of its calls.

* `compile_cases` and `results_cases` say what compiling and sending can do.
* `Kept` is the invariant of a search under questions: it knows a page exactly when a call has been
  answered with that page, and every call was made for its compiled query.  `access_kept` is one
  question, `afterAsking_kept` a sequence of questions.
* `access_effect` is the result: what a question does after any others, with a backend that may give
  a page or fail at each call.
-/

namespace SearchFilter

/-! ## Recording calls -/

/-- A search that a backend was asked for, and how it answered. -/
structure BackendCall where
  asked : SearchCall
  answer : Except Failure Page

/-- The backend that also keeps a list of its calls, the last one at the end. -/
def Backend.recorded {σ : Type} (backend : Backend σ) : Backend (σ × List BackendCall) where
  search call state :=
    let answered := backend.search call state.1
    (answered.1, answered.2, state.2 ++ [⟨call, answered.1⟩])

namespace Search

/-- Whether a question is about the page of results. -/
def Access.needsPage : Access → Bool
  | .compiled => false
  | .sorts => false
  | .page => true
  | .result _ => true

/-- The answer to a question about a page of results. -/
def Access.answerFrom (page : Page) : Access → Except Failure Answer
  | .result question => (page.answer question).map .value
  | _ => .ok (.page page)

/-- A search and its backend after several questions. -/
def afterAsking {σ : Type} (backend : Backend σ) : List Access → Search × σ → Search × σ
  | [], reached => reached
  | access :: rest, reached =>
    afterAsking backend rest (reached.1.access backend access reached.2).2

/-- Two searches ask for the same, whatever has been found out about them. -/
structure SameRequest (search other : Search) : Prop where
  params : other.params = search.params
  compiler : other.compiler = search.compiler
  page : other.page = search.page
  perPage : other.perPage = search.perPage

theorem SameRequest.trans {first second third : Search} (h : first.SameRequest second)
    (h' : second.SameRequest third) : first.SameRequest third :=
  ⟨h'.params.trans h.params, h'.compiler.trans h.compiler, h'.page.trans h.page,
    h'.perPage.trans h.perPage⟩

/-! ## Compiling and sending -/

/-- A compiled query is one of the parameters of a search. -/
def Compiles (search : Search) (compiled : CompiledQuery) : Prop :=
  ∃ locales,
    (search.compiler.compile (Params.ofEntries search.params) locales).1 = .ok compiled

theorem SameRequest.compiles_iff {search other : Search} (h : search.SameRequest other)
    (compiled : CompiledQuery) : other.Compiles compiled ↔ search.Compiles compiled := by
  rw [Compiles, Compiles, h.params, h.compiler]

/-- Compiling leaves a compiled query that is known from then on, or a failure and nothing
compiled.  A search that has been compiled stays as it is. -/
theorem compile_cases (search : Search) :
    (∃ compiled next, search.compile = (.ok compiled, next) ∧ next.compiled = some compiled ∧
        next.found = search.found ∧ search.SameRequest next ∧
        (search.compiled = some compiled ∧ next = search ∨
          search.compiled = none ∧ search.Compiles compiled)) ∨
      ∃ e next, search.compile = (.error e, next) ∧ search.compiled = none ∧
        next.compiled = none ∧ next.found = search.found ∧ search.SameRequest next := by
  rw [compile]
  cases hknown : search.compiled with
  | some compiled =>
    exact .inl ⟨compiled, search, rfl, hknown, rfl, ⟨rfl, rfl, rfl, rfl⟩, .inl ⟨rfl, rfl⟩⟩
  | none =>
    cases hresult : search.compiler.compile (Params.ofEntries search.params) search.locales with
    | mk result locales =>
      cases result with
      | ok compiled =>
        exact .inl ⟨compiled, _, rfl, rfl, rfl, ⟨rfl, rfl, rfl, rfl⟩,
          .inr ⟨rfl, search.locales, by rw [hresult]⟩⟩
      | error e => exact .inr ⟨e, _, rfl, rfl, rfl, rfl, ⟨rfl, rfl, rfl, rfl⟩⟩

theorem compile_eq_ok {search next : Search} {compiled : CompiledQuery}
    (h : search.compile = (.ok compiled, next)) :
    next.compiled = some compiled ∧ next.found = search.found ∧
      (search.compiled = some compiled ∧ next = search ∨
        search.compiled = none ∧ search.Compiles compiled) := by
  rcases compile_cases search with
    ⟨_, _, hcompile, hcompiled, hfound, _, hstays⟩ | ⟨_, _, hcompile, _⟩
  · rw [h] at hcompile
    cases hcompile
    exact ⟨hcompiled, hfound, hstays⟩
  · rw [h] at hcompile
    cases hcompile

variable {σ : Type} {backend : Backend σ}

/-- The call that a search makes once it is compiled. -/
def callFor (search : Search) (index : String) (compiled : CompiledQuery) : SearchCall :=
  ⟨index, compiled.body, search.page, search.perPage⟩

variable (backend) in
/-- Asking for the page of results gives the page that is known, or fails before the backend is
called, or makes one call. -/
theorem results_cases (search : Search) (state : σ) (calls : List BackendCall) :
    (∃ page, search.found = some page ∧
        search.results backend.recorded (state, calls) = (.ok page, search, state, calls)) ∨
      search.found = none ∧
        ((∃ e, search.compiler.model.index = .error e ∧
            search.results backend.recorded (state, calls) = (.error e, search, state, calls)) ∨
          ∃ index, search.compiler.model.index = .ok index ∧
            ((∃ e next, search.compile = (.error e, next) ∧
                search.results backend.recorded (state, calls) = (.error e, next, state, calls)) ∨
              ∃ compiled next answer state', search.compile = (.ok compiled, next) ∧
                backend.search (search.callFor index compiled) state = (answer, state') ∧
                search.results backend.recorded (state, calls) =
                  (answer, { next with found := answer.toOption }, state',
                    calls ++ [⟨search.callFor index compiled, answer⟩]))) := by
  rw [results]
  cases hfound : search.found with
  | some page => exact .inl ⟨page, rfl, rfl⟩
  | none =>
    refine .inr ⟨rfl, ?_⟩
    cases hindex : search.compiler.model.index with
    | error e => exact .inl ⟨e, rfl, rfl⟩
    | ok index =>
      refine .inr ⟨index, rfl, ?_⟩
      rcases compile_cases search with
        ⟨compiled, next, hcompile, _, hnext, hsame, _⟩ | ⟨e, next, hcompile, _⟩
      · refine .inr ⟨compiled, next, _, _, hcompile, rfl, ?_⟩
        have hcall : (⟨index, compiled.body, next.page, next.perPage⟩ : SearchCall) =
            search.callFor index compiled := by
          rw [callFor, hsame.page, hsame.perPage]
        simp only [hcompile, hcall, Backend.recorded]
        rw [hfound] at hnext
        cases (backend.search (search.callFor index compiled) state).1 with
        | error e =>
          cases next
          cases hnext
          rfl
        | ok page => rfl
      · refine .inl ⟨e, next, hcompile, ?_⟩
        simp only [hcompile]

section New

variable {search : Search} (hfound : search.found = none) (hnew : search.compiled = none)
  {index : String} (hindex : search.compiler.model.index = .ok index)

include hfound hnew hindex

/-- A new search that compiles asks the backend once. -/
theorem results_of_compile_eq_ok {compiled : CompiledQuery}
    (hcompile : (search.compiler.compile (Params.ofEntries search.params) search.locales).1 =
      .ok compiled) (backend : Backend σ) (state : σ) :
    (search.results backend state).1 =
        (backend.search (search.callFor index compiled) state).1 ∧
      (search.results backend state).2.2 =
        (backend.search (search.callFor index compiled) state).2 := by
  have hresult : search.compile = (.ok compiled, { search with
      compiled := some compiled
      locales := (search.compiler.compile (Params.ofEntries search.params) search.locales).2 }) := by
    rw [compile, hnew]
    dsimp only
    rw [hcompile]
  rw [results, hfound, hindex, hresult]
  dsimp only
  rw [callFor]
  cases backend.search ⟨index, compiled.body, search.page, search.perPage⟩ state with
  | mk answer state' => cases answer <;> exact ⟨rfl, rfl⟩

/-- A new search that does not compile asks the backend nothing. -/
theorem results_of_compile_eq_error {e : Failure}
    (hcompile : (search.compiler.compile (Params.ofEntries search.params) search.locales).1 =
      .error e) (backend : Backend σ) (state : σ) :
    (search.results backend state).1 = .error e ∧ (search.results backend state).2.2 = state := by
  have hresult : search.compile = (.error e, { search with
      locales := (search.compiler.compile (Params.ofEntries search.params) search.locales).2 }) := by
    rw [compile, hnew]
    dsimp only
    rw [hcompile]
  rw [results, hfound, hindex, hresult]
  exact ⟨rfl, rfl⟩

end New

/-! ## One question -/

theorem access_of_needsPage {access : Access} (h : access.needsPage = true) (search : Search)
    (state : σ) :
    search.access backend access state =
      ((search.results backend state).1.bind access.answerFrom,
        (search.results backend state).2) := by
  cases access with
  | compiled | sorts => cases h
  | page =>
    rw [Search.access]
    cases (search.results backend state).1 <;> rfl
  | result question => rfl

variable (backend) in
theorem access_of_not_needsPage {access : Access} (h : access.needsPage = false) (search : Search)
    (state : σ) :
    (search.access backend access state).2 = (search.compile.2, state) ∧
      ∀ e, search.compile.1 = .error e → (search.access backend access state).1 = .error e := by
  cases access with
  | compiled | sorts =>
    refine ⟨rfl, fun e he => ?_⟩
    rw [Search.access, he]
    rfl
  | page | result question => cases h

/-- What is known of a search after questions, and of the calls made for them. -/
structure Kept (search now : Search) (calls : List BackendCall) : Prop where
  same : search.SameRequest now
  own : ∀ compiled, now.compiled = some compiled → search.Compiles compiled
  asked : ∀ call ∈ calls, ∃ index compiled, search.compiler.model.index = .ok index ∧
    now.compiled = some compiled ∧ call.asked = search.callFor index compiled
  found_iff : ∀ page, now.found = some page ↔ ∃ call ∈ calls, call.answer = .ok page

variable {search now : Search} {calls : List BackendCall}

theorem kept_nil (hcompiled : search.compiled = none) (hfound : search.found = none) :
    Kept search search [] :=
  ⟨⟨rfl, rfl, rfl, rfl⟩, by simp [hcompiled], by simp, by simp [hfound]⟩

theorem Kept.callFor_eq (h : Kept search now calls) (index : String) (compiled : CompiledQuery) :
    now.callFor index compiled = search.callFor index compiled := by
  rw [callFor, callFor, h.same.page, h.same.perPage]

theorem compile_of_compiled {compiled : CompiledQuery} (h : now.compiled = some compiled) :
    now.compile = (.ok compiled, now) := by
  rw [Search.compile, h]

/-- Without a page so far, every call has failed. -/
theorem Kept.answer_ne_ok (h : Kept search now calls) (hfound : now.found = none)
    {call : BackendCall} (hcall : call ∈ calls) (page : Page) : call.answer ≠ .ok page := by
  intro hok
  have hsome := (h.found_iff page).mpr ⟨call, hcall, hok⟩
  rw [hfound] at hsome
  cases hsome

/-- Once something has been called, compiling cannot fail and the index of the model is known. -/
theorem Kept.of_mem (h : Kept search now calls) {call : BackendCall} (hcall : call ∈ calls) :
    (∃ compiled, now.compile = (.ok compiled, now)) ∧
      ∃ index, search.compiler.model.index = .ok index := by
  obtain ⟨index, compiled, hindex, hcompiled, _⟩ := h.asked call hcall
  exact ⟨⟨compiled, compile_of_compiled hcompiled⟩, index, hindex⟩

/-- Where compiling fails nothing has been called, and nothing is known afterwards. -/
theorem Kept.compile_eq_error (h : Kept search now calls) {e : Failure}
    (he : now.compile.1 = .error e) :
    calls = [] ∧ ∃ next, now.compile = (.error e, next) ∧ next.compiled = none ∧
      next.found = none := by
  have hcalls : calls = [] := List.eq_nil_iff_forall_not_mem.mpr fun call hcall => by
    obtain ⟨⟨_, hcompile⟩, _⟩ := h.of_mem hcall
    rw [hcompile] at he
    cases he
  refine ⟨hcalls, ?_⟩
  rcases compile_cases now with ⟨_, _, hcompile, _⟩ | ⟨_, next, hcompile, _, hnext, hfound, _⟩
  · rw [hcompile] at he
    cases he
  · rw [hcompile] at he
    cases he
    refine ⟨next, hcompile, hnext, hfound.trans (Option.eq_none_iff_forall_ne_some.mpr ?_)⟩
    intro page hpage
    obtain ⟨_, hcall, _⟩ := (h.found_iff page).mp hpage
    rw [hcalls] at hcall
    cases hcall

/-- Compiling keeps the invariant. -/
theorem Kept.compile (h : Kept search now calls) : Kept search now.compile.2 calls := by
  rcases compile_cases now with
    ⟨compiled, next, hcompile, hnext, hfound, hsame, hstays⟩ |
      ⟨_, next, hcompile, _, hnext, hfound, hsame⟩
  · rw [hcompile]
    rcases hstays with ⟨_, rfl⟩ | ⟨hnone, hcompiles⟩
    · exact h
    · refine ⟨h.same.trans hsame, fun other hother => ?_, fun call hcall => ?_,
        fun page => hfound ▸ h.found_iff page⟩
      · rw [hnext] at hother
        cases hother
        exact (h.same.compiles_iff compiled).mp hcompiles
      · obtain ⟨_, _, _, hcompiled, _⟩ := h.asked call hcall
        rw [hnone] at hcompiled
        cases hcompiled
  · obtain ⟨rfl, _⟩ := h.compile_eq_error (by rw [hcompile])
    rw [hcompile]
    exact ⟨h.same.trans hsame, by simp [hnext], by simp, fun page => hfound ▸ h.found_iff page⟩

/-- Without a page so far, a call keeps the invariant: its answer is what is found. -/
theorem Kept.call (h : Kept search now calls) {index : String} {compiled : CompiledQuery}
    (hindex : search.compiler.model.index = .ok index) (hcompiled : now.compiled = some compiled)
    (hfound : now.found = none) (answer : Except Failure Page) :
    Kept search { now with found := answer.toOption }
      (calls ++ [⟨search.callFor index compiled, answer⟩]) := by
  refine ⟨⟨h.same.params, h.same.compiler, h.same.page, h.same.perPage⟩, h.own, ?_, fun page => ?_⟩
  · intro call hcall
    rcases List.mem_append.mp hcall with hbefore | hlast
    · exact h.asked call hbefore
    · cases List.mem_singleton.mp hlast
      exact ⟨index, compiled, hindex, hcompiled, rfl⟩
  · constructor
    · intro hpage
      refine ⟨_, List.mem_append_right _ (List.mem_singleton_self _), ?_⟩
      cases answer with
      | error e => cases hpage
      | ok found =>
        cases hpage
        rfl
    · rintro ⟨call, hcall, hok⟩
      rcases List.mem_append.mp hcall with hbefore | hlast
      · exact absurd hok (h.answer_ne_ok hfound hbefore page)
      · cases List.mem_singleton.mp hlast
        cases hok
        rfl

/-- Asking for the page of results keeps the invariant. -/
theorem Kept.results (h : Kept search now calls) (state : σ) :
    Kept search (now.results backend.recorded (state, calls)).2.1
      (now.results backend.recorded (state, calls)).2.2.2 := by
  rcases results_cases backend now state calls with
    ⟨_, _, hresult⟩ | ⟨hfound, ⟨_, _, hresult⟩ | ⟨index, hindex, ⟨e, next, hcompile, hresult⟩ |
      ⟨compiled, next, answer, _, hcompile, _, hresult⟩⟩⟩
  · rw [hresult]
    exact h
  · rw [hresult]
    exact h
  · have hnext := h.compile
    rw [hcompile] at hnext
    rw [hresult]
    exact hnext
  · have hnext := h.compile
    rw [hcompile] at hnext
    rw [h.same.compiler] at hindex
    obtain ⟨hcompiled, hfound', _⟩ := compile_eq_ok hcompile
    rw [hresult, h.callFor_eq]
    exact hnext.call hindex hcompiled (hfound'.trans hfound) answer

variable (backend) in
/-- One question keeps the invariant. -/
theorem access_kept (h : Kept search now calls) (access : Access) (state : σ) :
    Kept search (now.access backend.recorded access (state, calls)).2.1
      (now.access backend.recorded access (state, calls)).2.2.2 := by
  cases hpage : access.needsPage with
  | true =>
    rw [access_of_needsPage hpage]
    exact h.results state
  | false =>
    rw [(access_of_not_needsPage _ hpage now _).1]
    exact h.compile

/-- So does a sequence of questions. -/
theorem afterAsking_kept (questions : List Access) (h : Kept search now calls) (state : σ) :
    Kept search (afterAsking backend.recorded questions (now, state, calls)).1
      (afterAsking backend.recorded questions (now, state, calls)).2.2 := by
  induction questions generalizing now state calls with
  | nil => exact h
  | cons access rest ih => exact ih (access_kept backend h access state) _

/-! ## Any question after any others -/

/-- What a question does, asked of a search and its backend as they are reached after other
questions. -/
structure Effect (backend : Backend σ) (search : Search) (access : Access)
    (reached : Search × σ × List BackendCall)
    (result : Except Failure Answer × Search × σ × List BackendCall) : Prop where
  /-- What the search asks for does not change. -/
  same : search.SameRequest result.2.1
  /-- A query that is known to be compiled is one of the parameters of the search. -/
  own : ∀ compiled, result.2.1.compiled = some compiled → search.Compiles compiled
  /-- Every call was made for the index of the model, the compiled query and the page. -/
  asked : ∀ call ∈ result.2.2.2, ∃ index compiled, search.compiler.model.index = .ok index ∧
    result.2.1.compiled = some compiled ∧
    call.asked = ⟨index, compiled.body, search.page, search.perPage⟩
  /-- What has been compiled is kept, and is not compiled again. -/
  compiledOnce : ∀ compiled, reached.1.compiled = some compiled →
    reached.1.compile = (.ok compiled, reached.1) ∧ result.2.1.compiled = some compiled ∧
      result.2.1.locales = reached.1.locales
  /-- Questions about the compiled query call nothing. -/
  quiet : access.needsPage = false → result.2.2 = reached.2
  /-- After a call that gave a page nothing is called, and the answers are those of that page. -/
  answered : ∀ call ∈ reached.2.2, ∀ page, call.answer = .ok page →
    result.2.2 = reached.2 ∧ (access.needsPage = true → result.1 = access.answerFrom page)
  /-- Until then, a question about the page makes one call if the search compiles.  A failure of the
  call is the answer, and no page is kept. -/
  called : (∀ call ∈ reached.2.2, ∀ page, call.answer ≠ .ok page) → access.needsPage = true →
    ∀ index compiled, search.compiler.model.index = .ok index →
      reached.1.compile.1 = .ok compiled →
      ∃ answer state',
        backend.search ⟨index, compiled.body, search.page, search.perPage⟩ reached.2.1 =
          (answer, state') ∧
        result.2.2 = (state', reached.2.2 ++
          [⟨⟨index, compiled.body, search.page, search.perPage⟩, answer⟩]) ∧
        ((∃ page, answer = .ok page ∧ result.1 = access.answerFrom page ∧
            result.2.1.found = some page) ∨
          ∃ e, answer = .error e ∧ result.1 = .error e ∧ result.2.1.found = none)
  /-- A failure of compiling is the answer.  Nothing is called, and nothing is kept. -/
  uncompiled : ∀ e, reached.1.compile.1 = .error e →
    (access.needsPage = true → ∃ index, search.compiler.model.index = .ok index) →
    result.1 = .error e ∧ result.2.2 = reached.2 ∧ result.2.1.compiled = none ∧
      result.2.1.found = none
  /-- A model without index can be compiled for, but nothing is found in it. -/
  unnamed : ∀ e, search.compiler.model.index = .error e → access.needsPage = true →
    result = (.error e, reached)

/-- A question about the compiled query compiles the search, and nothing else. -/
theorem effect_of_not_needsPage (h : Kept search now calls) {access : Access}
    (hpage : access.needsPage = false) (state : σ) :
    Effect backend search access (now, state, calls)
      (now.access backend.recorded access (state, calls)) := by
  have hkept := access_kept backend h access state
  obtain ⟨hstate, hfailure⟩ :=
    access_of_not_needsPage backend.recorded hpage now (state, calls)
  have hno : access.needsPage ≠ true := by rw [hpage]; exact Bool.false_ne_true
  refine ⟨hkept.same, hkept.own, hkept.asked, fun compiled hcompiled => ?_, fun _ => ?_,
    fun call hcall page hok => ⟨?_, fun h => absurd h hno⟩, fun _ h => absurd h hno,
    fun e he _ => ⟨hfailure e he, ?_⟩, fun _ _ h => absurd h hno⟩
  · rw [hstate, compile_of_compiled hcompiled]
    exact ⟨rfl, hcompiled, rfl⟩
  · rw [hstate]
  · rw [hstate]
  · obtain ⟨_, next, hcompile, hnext, hfound⟩ := h.compile_eq_error he
    rw [hstate, hcompile]
    exact ⟨rfl, hnext, hfound⟩

/-- A question about a page that is known is answered from it. -/
theorem effect_of_found (h : Kept search now calls) (access : Access) {page : Page}
    (hfound : now.found = some page) (state : σ) :
    Effect backend search access (now, state, calls)
      (access.answerFrom page, now, state, calls) := by
  obtain ⟨call, hcall, hok⟩ := (h.found_iff page).mp hfound
  obtain ⟨⟨_, hcompile⟩, _, hindex⟩ := h.of_mem hcall
  refine ⟨h.same, h.own, h.asked,
    fun compiled hcompiled => ⟨compile_of_compiled hcompiled, hcompiled, rfl⟩, fun _ => rfl,
    fun other hother page' hok' => ⟨rfl, fun _ => ?_⟩, fun hnone => ?_, fun e he => ?_,
    fun e he => ?_⟩
  · have hsame := (h.found_iff page').mpr ⟨other, hother, hok'⟩
    rw [hfound] at hsame
    cases hsame
    rfl
  · exact absurd hok (hnone call hcall page)
  · rw [hcompile] at he
    cases he
  · rw [hindex] at he
    cases he

/-- Without an index a question about the page fails before anything is compiled. -/
theorem effect_of_unnamed (h : Kept search now calls) {access : Access}
    (hpage : access.needsPage = true) {e : Failure}
    (hindex : search.compiler.model.index = .error e) (state : σ) :
    Effect backend search access (now, state, calls) (.error e, now, state, calls) := by
  have hnot : ∀ index, search.compiler.model.index ≠ .ok index := by simp [hindex]
  refine ⟨h.same, h.own, h.asked,
    fun compiled hcompiled => ⟨compile_of_compiled hcompiled, hcompiled, rfl⟩, fun _ => rfl,
    fun call hcall _ _ => ?_, fun _ _ index _ hok => absurd hok (hnot index),
    fun _ _ hsome => ?_, fun e' he' _ => ?_⟩
  · obtain ⟨_, index, hok⟩ := h.of_mem hcall
    exact absurd hok (hnot index)
  · obtain ⟨index, hok⟩ := hsome hpage
    exact absurd hok (hnot index)
  · rw [hindex] at he'
    cases he'
    rfl

variable (backend) in
/-- A search that does not compile sends nothing. -/
theorem effect_of_uncompiled (h : Kept search now calls) (access : Access) {index : String}
    (hindex : search.compiler.model.index = .ok index) {e : Failure}
    (he : now.compile.1 = .error e) (state : σ) :
    Effect backend search access (now, state, calls) (.error e, now.compile.2, state, calls) := by
  obtain ⟨rfl, next, hcompile, hnext, hfound⟩ := h.compile_eq_error he
  have hkept := h.compile
  refine ⟨hkept.same, hkept.own, hkept.asked, fun compiled hcompiled => ?_, fun hno => ?_,
    fun call hcall => ?_, fun _ _ _ compiled _ hok => ?_, fun e' he' _ => ?_, fun e' he' => ?_⟩
  · rw [compile_of_compiled hcompiled] at he
    cases he
  · rfl
  · cases hcall
  · rw [he] at hok
    cases hok
  · rw [he] at he'
    cases he'
    rw [hcompile]
    exact ⟨rfl, rfl, hnext, hfound⟩
  · rw [hindex] at he'
    cases he'

/-- A search that compiles and has no page makes one call. -/
theorem effect_of_call (h : Kept search now calls) {access : Access}
    (hpage : access.needsPage = true) (hfound : now.found = none) {index : String}
    (hindex : search.compiler.model.index = .ok index) {compiled : CompiledQuery} {next : Search}
    (hcompile : now.compile = (.ok compiled, next)) {answer : Except Failure Page}
    {state state' : σ}
    (hanswer : backend.search (search.callFor index compiled) state = (answer, state')) :
    Effect backend search access (now, state, calls)
      (answer.bind access.answerFrom, { next with found := answer.toOption }, state',
        calls ++ [⟨search.callFor index compiled, answer⟩]) := by
  obtain ⟨hcompiled, hfound', hstays⟩ := compile_eq_ok hcompile
  have hnext := h.compile
  rw [hcompile] at hnext
  have hkept := hnext.call hindex hcompiled (hfound'.trans hfound) answer
  refine ⟨hkept.same, hkept.own, hkept.asked, fun before hbefore => ?_, fun hno => ?_,
    fun call hcall page hok => absurd hok (h.answer_ne_ok hfound hcall page),
    fun _ _ index' compiled' hindex' hcompile' => ?_, fun e he => ?_, fun e he => ?_⟩
  · rcases hstays with ⟨_, rfl⟩ | ⟨hnone, _⟩
    · exact ⟨compile_of_compiled hbefore, hbefore, rfl⟩
    · rw [hbefore] at hnone
      cases hnone
  · rw [hpage] at hno
    cases hno
  · rw [hindex] at hindex'
    cases hindex'
    rw [hcompile] at hcompile'
    cases hcompile'
    refine ⟨answer, state', hanswer, rfl, ?_⟩
    cases answer with
    | ok page => exact .inl ⟨page, rfl, rfl, rfl⟩
    | error e => exact .inr ⟨e, rfl, rfl, rfl⟩
  · rw [hcompile] at he
    cases he
  · rw [hindex] at he
    cases he

/-- A question has this effect whenever it is asked. -/
theorem Kept.effect (h : Kept search now calls) (access : Access) (state : σ) :
    Effect backend search access (now, state, calls)
      (now.access backend.recorded access (state, calls)) := by
  cases hpage : access.needsPage with
  | false => exact effect_of_not_needsPage h hpage state
  | true =>
    rw [access_of_needsPage hpage]
    rcases results_cases backend now state calls with
      ⟨page, hfound, hresult⟩ | ⟨hfound, ⟨e, hindex, hresult⟩ |
        ⟨index, hindex, ⟨e, next, hcompile, hresult⟩ |
          ⟨compiled, next, answer, state', hcompile, hanswer, hresult⟩⟩⟩
    all_goals
      rw [hresult]
    · exact effect_of_found h access hfound state
    · rw [h.same.compiler] at hindex
      exact effect_of_unnamed h hpage hindex state
    · rw [h.same.compiler] at hindex
      have heffect := effect_of_uncompiled backend h access hindex
        (by rw [hcompile]) state
      rwa [hcompile] at heffect
    · rw [h.same.compiler] at hindex
      rw [h.callFor_eq] at hanswer ⊢
      exact effect_of_call h hpage hfound hindex hcompile hanswer

/-- Whatever has been asked of a search before, and whatever the backend has answered, a question
has the effects listed in `Effect`. -/
theorem access_effect (backend : Backend σ) {search : Search} (hcompiled : search.compiled = none)
    (hfound : search.found = none) (questions : List Access) (access : Access) (state : σ) :
    let reached := afterAsking backend.recorded questions (search, state, [])
    Effect backend search access reached
      (reached.1.access backend.recorded access reached.2) :=
  (afterAsking_kept questions (kept_nil hcompiled hfound) state).effect access _

/-- A search of articles by title. -/
def titleSearch : Search where
  params := [(.text "title_cont", .text "a")]
  compiler := .make (.indexed "articles" none []) .default .default
  page := 1
  perPage := 50
  locales := .constant "en"
  compiled := none
  found := none

/-- The backend refuses the first call.  The second is the last, however the page is asked for. -/
theorem access_effect_titleSearch :
    let reached := afterAsking Backend.canned.recorded
      [.compiled, .page, .sorts, .result .totalEntries] (titleSearch, ⟨.list [], 0, 1, []⟩, [])
    titleSearch.compiled = none ∧ titleSearch.found = none ∧ reached.2.2.length = 2 ∧
      (reached.1.access Backend.canned.recorded (.result .size) reached.2).2.2.2.length = 2 ∧
      ∃ page, (reached.1.access Backend.canned.recorded (.result .size) reached.2).1 =
        Access.answerFrom page (.result .size) := by
  intro reached
  have heffect := access_effect Backend.canned (rfl : titleSearch.compiled = none) rfl
    [.compiled, .page, .sorts, .result .totalEntries] (.result .size) ⟨.list [], 0, 1, []⟩
  have hlength : reached.2.2.length = 2 := by decide +kernel
  have hanswer : ∃ call ∈ reached.2.2, ∃ page, call.answer = .ok page :=
    ⟨_, List.mem_cons_of_mem _ List.mem_cons_self, _, rfl⟩
  obtain ⟨call, hcall, page, hok⟩ := hanswer
  obtain ⟨hstate, hfrom⟩ := heffect.answered call hcall page hok
  exact ⟨rfl, rfl, hlength, by rw [hstate, hlength], page, hfrom rfl⟩

end Search

end SearchFilter
