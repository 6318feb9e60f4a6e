import SearchFilter.Proofs.Address.Lawful
import SearchFilter.Proofs.Client.Posted

/-!
# Opening, closing and asking in any order

A client is opened, closed and asked any number of times (`Step`), and a server may answer as it
likes.  A run of steps leaves the client open if its last opening or closing was an opening, whatever
has failed since: `leaves_run`, by induction on the run from its end, with `Leaves.take` for one step
more.

What a step sends is `requestFor`, a function of the client and the step (`snd_take`).  As a run
leaves one of two clients, the opened or the closed one, no request depends on what came before:
`continues_run` is the result for the next step, and `log_run_eq` says of whole runs that all servers
receive the same requests.

A question sends no request if there is none for it: its page may be too far on, or the name of its
index too long (`not_sent_farPage`).
-/

namespace SearchFilter

open SearchFilter.Http SearchFilter.Number

variable {α ω ω' : Type}

/-- The state of a server after a request, if there is one. -/
def Http.Server.after (server : Server ω) (request? : Option Request) (state : ω) : ω :=
  match request? with
  | none => state
  | some request => (server request state).2

namespace Client

/-! ## Steps -/

/-- What can be done with a client. -/
inductive Step where
  | enter
  | exit
  | search (index : String) (body page perPage : Value)
  | mapping (index : String)

/-- What a step gives that does not fail. -/
inductive Gain where
  | nothing
  | page (page : Page)
  | mapping (mapping : Value)

/-- Takes a step.  A client that cannot be opened stays as it is. -/
def take [Resolver α] (server : Server ω) (step : Step) (reached : Client α × ω) :
    Except Failure Gain × Client α × ω :=
  let (client, state) := reached
  match step with
  | .enter =>
    match client.enter with
    | .ok opened => (.ok .nothing, opened, state)
    | .error e => (.error e, client, state)
  | .exit => (.ok .nothing, client.exit, state)
  | .search index body page perPage =>
    let answered := client.search server index body page perPage state
    (answered.1.map .page, client, answered.2)
  | .mapping index =>
    let answered := client.mapping server index state
    (answered.1.map .mapping, client, answered.2)

/-- What is reached by a run of steps. -/
def run [Resolver α] (server : Server ω) (steps : List Step) (start : Client α × ω) :
    Client α × ω :=
  steps.foldl (fun reached step => (take server step reached).2) start

/-- Whether a step opens or closes the client. -/
def Step.turns : Step → Bool
  | .enter => true
  | .exit => true
  | .search _ _ _ _ => false
  | .mapping _ => false

theorem Step.eq_of_turns {step : Step} (h : step.turns = true) :
    step = .enter ∨ step = .exit := by
  cases step with
  | enter => exact .inl rfl
  | exit => exact .inr rfl
  | search index body page perPage => cases h
  | mapping index => cases h

/-- The last step of a run that opens or closes the client opens it. -/
def Entered (steps : List Step) : Prop :=
  (steps.filter Step.turns).getLast? = some .enter

theorem run_concat [Resolver α] (server : Server ω) (steps : List Step) (step : Step)
    (start : Client α × ω) :
    run server (steps ++ [step]) start = (take server step (run server steps start)).2 := by
  rw [run, List.foldl_append]
  rfl

theorem entered_concat (steps : List Step) (step : Step) :
    Entered (steps ++ [step]) ↔ step = .enter ∨ step.turns = false ∧ Entered steps := by
  unfold Entered
  rw [List.filter_append]
  cases step <;> simp [Step.turns]

/-! ## What is sent -/

section Sent

variable [Resolver α] (client : Client α)

/-- The request for a path, if the client is open and the path can be resolved. -/
def requestTo? (method : Method) (path body : String) : Option Request :=
  client.base.bind fun base =>
    (Resolver.resolve base path).toOption.map fun address => client.request address method body

/-- The request that is sent for a step, if one is sent. -/
def requestFor : Step → Option Request
  | .enter => none
  | .exit => none
  | .search index body page perPage =>
    (searchRequest body page perPage).toOption.bind fun asked =>
      client.requestTo? .post ("/" ++ index ++ "/_search") asked.1
  | .mapping index => client.requestTo? .get ("/" ++ index ++ "/_mapping") ""

theorem snd_send (server : Server ω) (method : Method) (path body : String) (state : ω) :
    (client.send server method path body state).2 =
      server.after (client.requestTo? method path body) state := by
  rw [send, requestTo?]
  cases client.base with
  | none => rfl
  | some base =>
    dsimp only [Option.bind_some]
    cases Resolver.resolve base path <;> rfl

theorem snd_search (server : Server ω) (index : String) (body page perPage : Value) (state : ω) :
    (client.search server index body page perPage state).2 =
      server.after (client.requestFor (.search index body page perPage)) state := by
  rw [search, requestFor]
  cases hrequest : searchRequest body page perPage with
  | error e => split <;> rfl
  | ok asked =>
    split
    · exact snd_send client server .post ("/" ++ index ++ "/_search") asked.1 state
    · next hopen =>
      rw [isOpen, Option.not_isSome_iff_eq_none] at hopen
      show state = server.after (client.requestTo? _ _ _) state
      rw [requestTo?, hopen]
      rfl

/-- A step reaches the server with its request. -/
theorem snd_take (server : Server ω) (step : Step) (state : ω) :
    (take server step (client, state)).2.2 = server.after (client.requestFor step) state := by
  cases step with
  | enter =>
    unfold take
    dsimp only
    split <;> rfl
  | exit => rfl
  | search index body page perPage =>
    exact snd_search client server index body page perPage state
  | mapping index =>
    exact snd_send client server .get ("/" ++ index ++ "/_mapping") "" state

/-- A step that neither opens nor closes the client leaves it as it is. -/
theorem fst_take {server : Server ω} {step : Step} (hstep : step.turns = false) (state : ω) :
    (take server step (client, state)).2.1 = client := by
  cases step with
  | enter => cases hstep
  | exit => cases hstep
  | search index body page perPage => rfl
  | mapping index => rfl

end Sent

/-! ## Runs -/

section Runs

variable [Resolver α] {client opened : Client α}

/-- A closed client refuses what it is asked, and sends nothing. -/
theorem take_closed (hclosed : client.base = none) (server : Server ω) {step : Step}
    (hstep : step.turns = false) (state : ω) :
    take server step (client, state) = (.error .clientClosed, client, state) := by
  cases step with
  | enter => cases hstep
  | exit => cases hstep
  | search index body page perPage =>
    have hopen : ¬ client.isOpen = true := by rw [isOpen, hclosed]; exact Bool.false_ne_true
    rw [take, search, if_neg hopen]
    rfl
  | mapping index =>
    rw [take, Client.mapping, send, hclosed]
    rfl

/-- Closing undoes opening. -/
theorem exit_of_enter (hclosed : client.base = none) (henter : client.enter = .ok opened) :
    opened.exit = client := by
  obtain ⟨base, _, h⟩ := bind_eq_ok henter
  split at h
  · cases h
    rw [exit, ← hclosed]
  · cases h

omit [Resolver α] in
theorem exit_of_closed (hclosed : client.base = none) : client.exit = client := by
  rw [exit, ← hclosed]

/-- An open client can be opened again, and is the same then. -/
theorem enter_of_enter (hclosed : client.base = none) (henter : client.enter = .ok opened) :
    opened.enter = .ok opened := by
  have hsame : opened.exit.enter = opened.enter := rfl
  rw [← hsame, exit_of_enter hclosed henter, henter]

theorem take_enter (henter : client.enter = .ok opened) (server : Server ω) (state : ω) :
    take server .enter (client, state) = (.ok .nothing, opened, state) := by
  unfold take
  dsimp only
  rw [henter]

/-- The client that a run of steps leaves: the opened one if the last opening or closing was an
opening, and the closed one otherwise. -/
structure Leaves (client opened : Client α) (steps : List Step) (reached : Client α) : Prop where
  of_entered : Entered steps → reached = opened
  of_not_entered : ¬ Entered steps → reached = client

namespace Leaves

variable {steps : List Step} {reached reached' : Client α} (h : Leaves client opened steps reached)

include h

omit [Resolver α] in
theorem unique (h' : Leaves client opened steps reached') : reached = reached' := by
  by_cases hentered : Entered steps
  · rw [h.of_entered hentered, h'.of_entered hentered]
  · rw [h.of_not_entered hentered, h'.of_not_entered hentered]

theorem enter (hclosed : client.base = none) (henter : client.enter = .ok opened) :
    reached.enter = .ok opened := by
  by_cases hentered : Entered steps
  · rw [h.of_entered hentered, enter_of_enter hclosed henter]
  · rw [h.of_not_entered hentered, henter]

theorem exit (hclosed : client.base = none) (henter : client.enter = .ok opened) :
    reached.exit = client := by
  by_cases hentered : Entered steps
  · rw [h.of_entered hentered, exit_of_enter hclosed henter]
  · rw [h.of_not_entered hentered, exit_of_closed hclosed]

/-- One step more. -/
theorem take (hclosed : client.base = none) (henter : client.enter = .ok opened)
    (server : Server ω) (step : Step) (state : ω) :
    Leaves client opened (steps ++ [step]) (take server step (reached, state)).2.1 := by
  rcases Bool.eq_false_or_eq_true step.turns with hturns | hstep
  · rcases Step.eq_of_turns hturns with rfl | rfl
    · rw [take_enter (h.enter hclosed henter)]
      refine ⟨fun _ => rfl, fun hnot => absurd ?_ hnot⟩
      exact (entered_concat steps .enter).mpr (.inl rfl)
    · refine ⟨fun hentered => ?_, fun _ => h.exit hclosed henter⟩
      rcases (entered_concat steps .exit).mp hentered with heq | ⟨hstep, _⟩
      · cases heq
      · cases hstep
  · have hne : ¬ step = .enter := by
      rintro rfl
      cases hstep
    have hsame : Entered (steps ++ [step]) ↔ Entered steps := by
      rw [entered_concat, or_iff_right hne, and_iff_right hstep]
    rw [fst_take reached hstep]
    exact ⟨fun hentered => h.of_entered (hsame.mp hentered),
      fun hnot => h.of_not_entered fun hentered => hnot (hsame.mpr hentered)⟩

end Leaves

/-- Every run leaves the opened or the closed client, whatever has failed in it. -/
theorem leaves_run (hclosed : client.base = none) (henter : client.enter = .ok opened)
    (server : Server ω) (steps : List Step) (state : ω) :
    Leaves client opened steps (run server steps (client, state)).1 := by
  induction steps using List.reverseRecOn with
  | nil =>
    refine ⟨fun hentered => ?_, fun _ => rfl⟩
    cases hentered
  | append_singleton steps step ih =>
    rw [run_concat]
    exact ih.take hclosed henter server step _

/-- A client that cannot be opened stays closed, and sends nothing. -/
theorem run_of_enter_eq_error (hclosed : client.base = none) {e : Failure}
    (henter : client.enter = .error e) (server : Server ω) (steps : List Step) (state : ω) :
    run server steps (client, state) = (client, state) := by
  induction steps using List.reverseRecOn with
  | nil => rfl
  | append_singleton steps step ih =>
    rw [run_concat, ih]
    rcases Bool.eq_false_or_eq_true step.turns with hturns | hstep
    · rcases Step.eq_of_turns hturns with rfl | rfl
      · unfold take
        dsimp only
        rw [henter]
      · exact congrArg (·, state) (exit_of_closed hclosed)
    · rw [take_closed hclosed server hstep]

theorem log_after (server : Server ω) (request? : Option Request) (state : ω)
    (log : List Request) :
    ((recorded server).after request? (state, log)).2 = log ++ request?.toList := by
  cases request? with
  | none => exact (List.append_nil log).symm
  | some request => rfl

/-- Whatever servers do, the same run sends them the same requests. -/
theorem log_run_eq (hclosed : client.base = none) (henter : client.enter = .ok opened)
    (server : Server ω) (server' : Server ω') (steps : List Step) (state : ω) (state' : ω') :
    (run (recorded server) steps (client, state, [])).2.2 =
      (run (recorded server') steps (client, state', [])).2.2 := by
  induction steps using List.reverseRecOn with
  | nil => rfl
  | append_singleton steps step ih =>
    have hleaves := leaves_run hclosed henter (recorded server) steps (state, [])
    have hleaves' := leaves_run hclosed henter (recorded server') steps (state', [])
    rw [run_concat, run_concat, snd_take, snd_take, log_after, log_after, ih,
      hleaves.unique hleaves']

end Runs

/-! ## The next step -/

section Next

variable [Resolver α]

/-- A client that can be opened, and can then be sent to at its own address. -/
structure Opens (client opened : Client α) (base : α) : Prop where
  enter : client.enter = .ok opened
  base_eq : opened.base = some base
  exists_root : ∃ root, Resolver.resolve base "/" = .ok root

variable [LawfulResolver α]

/-- A question that can be put to a client with this base: the index fits below it, the body can be
written, and so can the window. -/
inductive IsQuestion (base : α) : Step → Prop
  | search {index : String} {fields : List (String × Value)} {number perPage : Int}
      (hindex : LawfulResolver.FitsBelow base index) (hbody : IsBody fields)
      (hshort : IsShortWindow (perPage * (max number 1 - 1)) perPage) :
      IsQuestion base (.search index (.record fields) (.int number) (.int perPage))
  | mapping {index : String} (hindex : LawfulResolver.FitsBelow base index) :
      IsQuestion base (.mapping index)

theorem IsQuestion.turns {base : α} {step : Step} (h : IsQuestion base step) :
    step.turns = false := by
  cases h <;> rfl

/-- For a question there is a request. -/
theorem IsQuestion.exists_requestFor {client opened : Client α} {base : α} {step : Step}
    (h : IsQuestion base step) (hopens : Opens client opened base) :
    ∃ request, opened.requestFor step = some request := by
  obtain ⟨root, hroot⟩ := hopens.exists_root
  cases h with
  | @search index fields number perPage hindex hbody hshort =>
    obtain ⟨text, htext⟩ :=
      (exists_render_window_iff hbody).mpr ⟨hshort.first, hshort.count⟩
    obtain ⟨_, hmapping⟩ := LawfulResolver.exists_mapping hroot hindex
    obtain ⟨address, haddress⟩ := LawfulResolver.exists_search hmapping
    refine ⟨opened.request address .post text, ?_⟩
    rw [requestFor, searchRequest_record, htext]
    show opened.requestTo? _ _ _ = _
    rw [requestTo?, hopens.base_eq, Option.bind_some, haddress]
    rfl
  | mapping hindex =>
    obtain ⟨address, haddress⟩ := LawfulResolver.exists_mapping hroot hindex
    refine ⟨opened.request address .get "", ?_⟩
    rw [requestFor, requestTo?, hopens.base_eq, Option.bind_some, haddress]
    rfl

/-- What the next step does after a run of steps has reached a client, a state of the server and a
list of requests. -/
structure Continues (server : Server ω) (client opened : Client α) (base : α)
    (steps : List Step) (reached : Client α × ω × List Request) : Prop where
  /-- The client can be opened, whether it is open or not. -/
  enter : take (recorded server) .enter reached = (.ok .nothing, opened, reached.2)
  /-- The client can be closed, whether it is open or not. -/
  exit : take (recorded server) .exit reached = (.ok .nothing, client, reached.2)
  /-- After an opening, a question sends one request, which depends on the opened client and on the
  question, and leaves the client open. -/
  ask_open : Entered steps → ∀ step, IsQuestion base step →
    ∃ request, opened.requestFor step = some request ∧
      (take (recorded server) step reached).2 =
        (opened, (server request reached.2.1).2, reached.2.2 ++ [request])
  /-- Otherwise nothing is sent. -/
  ask_closed : ¬ Entered steps → ∀ step, step.turns = false →
    take (recorded server) step reached = (.error .clientClosed, client, reached.2)

/-- After every run of steps with every server, whatever has failed in it, the next step depends on
the run by its last opening or closing only. -/
theorem continues_run {url apiKey : Option String} {environment : Environment}
    {opened : Client α} {base : α} (hopens : Opens (make url apiKey environment) opened base)
    (server : Server ω) (steps : List Step) (state : ω) :
    Continues server (make url apiKey environment) opened base steps
      (run (recorded server) steps (make url apiKey environment, state, [])) := by
  have hclosed : (make url apiKey environment : Client α).base = none := rfl
  have hleaves := leaves_run hclosed hopens.enter (recorded server) steps (state, [])
  generalize run (recorded server) steps ((make url apiKey environment : Client α), state, []) =
    reached at hleaves ⊢
  obtain ⟨reached, state, log⟩ := reached
  refine ⟨?_, ?_, fun hentered step hstep => ?_, fun hnot step hstep => ?_⟩
  · exact take_enter (hleaves.enter hclosed hopens.enter) (recorded server) (state, log)
  · show (Except.ok Gain.nothing, reached.exit, state, log) = _
    rw [hleaves.exit hclosed hopens.enter]
  · obtain rfl : reached = opened := hleaves.of_entered hentered
    obtain ⟨request, hrequest⟩ := hstep.exists_requestFor hopens
    have hsent := snd_take reached (recorded server) step (state, log)
    rw [hrequest] at hsent
    exact ⟨request, hrequest, Prod.ext (fst_take reached hstep.turns (state, log)) hsent⟩
  · obtain rfl : reached = make url apiKey environment := hleaves.of_not_entered hnot
    exact take_closed hclosed (recorded server) hstep (state, log)

end Next

/-! ## A run with failures -/

/-- A server that cannot be reached. -/
def unreachable : Server Unit := fun _ state => (.unreachable, state)

/-- Steps that close what is not open, open it twice, and fail: before there is a client, before
there is a request, and after the request. -/
def failingRun : List Step :=
  [.exit, .mapping "users", .enter, .enter, .search "users" .null .null .null, .mapping "users"]

theorem opens_localClient : Opens (make none none ⟨none, none⟩) localClient localAddress :=
  ⟨enter_localClient, rfl, { localAddress with path := ['/'] }, by decide +kernel⟩

theorem fitsBelow_localAddress : LawfulResolver.FitsBelow localAddress "users" :=
  ⟨by decide, by decide, by decide +kernel⟩

/-- The run has sent one request, and the next question sends another. -/
theorem continues_failingRun :
    Opens (make none none ⟨none, none⟩) localClient localAddress ∧ Entered failingRun ∧
      IsQuestion localAddress (.mapping "users") ∧
      ∃ first second,
        run (recorded unreachable) failingRun (make none none ⟨none, none⟩, (), []) =
          (localClient, (), [first]) ∧
        localClient.requestFor (.mapping "users") = some second ∧
        (take (recorded unreachable) (.mapping "users") (localClient, (), [first])).2 =
          (localClient, (), [first, second]) := by
  have hrun : run (recorded unreachable) failingRun (make none none ⟨none, none⟩, (), []) =
      (localClient, (), [⟨.get, "http://localhost:9200/users/_mapping", "", none⟩]) := by
    decide +kernel
  have hentered : Entered failingRun := rfl
  have hquestion := IsQuestion.mapping fitsBelow_localAddress
  have hcontinues := continues_run opens_localClient unreachable failingRun ()
  rw [hrun] at hcontinues
  obtain ⟨request, hrequest, hsent⟩ := hcontinues.ask_open hentered _ hquestion
  exact ⟨opens_localClient, hentered, hquestion, _, request, hrun, hrequest, hsent⟩

/-! ## Questions that cannot be sent -/

/-- A number of which the square is too long to be written. -/
def farPage : Nat := 10 ^ 2200

theorem le_farPage_mul : 10 ^ digitLimit ≤ farPage * farPage := by
  rw [farPage, ← pow_add, pow_le_pow_iff_right₀ (by decide)]
  decide

/-- A name that is too long for an address. -/
def longName : String := String.ofList (List.replicate Address.lengthLimit 'a')

theorem resolve_longName (base : Address) :
    Resolver.resolve base ("/" ++ longName ++ "/_mapping") = .error .malformedAddress := by
  have hname : longName.toList.length = Address.lengthLimit := by
    rw [longName, String.toList_ofList, List.length_replicate]
  have hlength : Address.lengthLimit < ("/" ++ longName ++ "/_mapping").toList.length := by
    rw [String.toList_append, String.toList_append, List.length_append, List.length_append, hname]
    exact Nat.lt_add_right _ (Nat.lt_add_of_pos_left (by decide))
  generalize "/" ++ longName ++ "/_mapping" = path at hlength
  have hparse : Address.parse path = .error .malformedAddress := by
    unfold Address.parse
    dsimp only
    rw [decide_eq_true hlength, Bool.true_or, if_pos rfl]
  show (Address.parse path).bind _ = _
  rw [hparse]
  rfl

/-- A mapping for which there is no address is not asked for. -/
theorem take_mapping_of_error [Resolver α] {client : Client α} {base : α}
    (hbase : client.base = some base) {index : String} {e : Failure}
    (hresolve : Resolver.resolve base ("/" ++ index ++ "/_mapping") = .error e) (server : Server ω)
    (state : ω) : take server (.mapping index) (client, state) = (.error e, client, state) := by
  rw [take, Client.mapping, send, hbase]
  dsimp only
  rw [hresolve]
  rfl

/-- What keeps a client from sending although its last turn was an opening: a page so far on that its
start cannot be written, an index with a name that is too long, an address that is not ASCII, and a
key with which the client cannot be opened. -/
theorem not_sent_farPage :
    Opens (make none none ⟨none, none⟩) localClient localAddress ∧ Entered [.enter] ∧
      LawfulResolver.FitsBelow localAddress "users" ∧ IsBody [] ∧
      take (recorded counting) (.search "users" (.record []) (.int (farPage + 1 : Nat))
          (.int farPage)) (run (recorded counting) [.enter] (make none none ⟨none, none⟩, (), [])) =
        (.error .integerTooLong, localClient, (), []) ∧
      take (recorded counting) (.mapping longName)
          (run (recorded counting) [.enter] (make none none ⟨none, none⟩, (), [])) =
        (.error .malformedAddress, localClient, (), []) ∧
      (run (recorded counting) [.enter, .mapping "users"]
          ((make (some "http://[fe80::1%\u00e9]") none ⟨none, none⟩ : Client Address),
            (), [])).2.2 = [] ∧
      (run (recorded counting) [.enter, .mapping "users"]
          ((make none (some "\u00e9") ⟨none, none⟩ : Client Address), (), [])).2.2 = [] := by
  have hrun : run (recorded counting) [.enter] (make none none ⟨none, none⟩, (), []) =
      (localClient, (), []) :=
    congrArg Prod.snd (take_enter opens_localClient.enter (recorded counting) ((), []))
  have hstart : (farPage : Int) * (max ((farPage + 1 : Nat) : Int) 1 - 1) =
      (farPage * farPage : Nat) := by
    rw [max_eq_left (by omega), Nat.cast_add, Nat.cast_one, add_sub_cancel_right, Nat.cast_mul]
  have hlong : ¬ IsShortWindow ((farPage : Int) * (max ((farPage + 1 : Nat) : Int) 1 - 1))
      farPage := by
    rw [hstart]
    exact not_isShortWindow_of_le_first le_farPage_mul
  have hsearch := search_of_not_isShortWindow reaches_localClient isBody_nil hlong
    (recorded counting) ((), [])
  refine ⟨opens_localClient, rfl, fitsBelow_localAddress, isBody_nil, ?_, ?_, ?_, ?_⟩
  · rw [hrun, take, hsearch]
    rfl
  · rw [hrun]
    exact take_mapping_of_error rfl (resolve_longName localAddress) (recorded counting) ((), [])
  · decide +kernel
  · decide +kernel

end Client

end SearchFilter
