import SearchFilter.Cli.Command
import SearchFilter.Proofs.Address.Lawful
import SearchFilter.Proofs.Client.Sent
import SearchFilter.Proofs.Client.Walk
import SearchFilter.Proofs.Compiler.Models
import SearchFilter.Proofs.Compiler.Sendable
import SearchFilter.Proofs.QueryString.Decoded
import SearchFilter.Proofs.Schema
import SearchFilter.Proofs.Search.Once
import SearchFilter.Proofs.Text.Split

/-!
# Compiling as a preview of searching

The command `compile` prints a request body, and the command `search` sends one.  With the types of
an index mapping declared on the command line, both compile the query to the same:
`SearchCommand.compiled`.

* `runCompile_preview` says what `compile` does with it.
* `runSearch_of_compiled` and `runSearch_of_error` say what `search` does with it once the mapping
  has come: `Posts` if the window of the page can be written, and `PostsNothing` otherwise.
* `search_posts_preview` is the result: what is sent is what is printed, and the window.
-/

namespace SearchFilter.Cli

open SearchFilter.Http SearchFilter.Number
open Value (textEntries)
open Client (localClient)

/-! ## Declared types -/

/-- Types of fields as they are declared. -/
def typesOf (declared : List (String × String)) : Params :=
  declared.map fun field => (field.1, .text field.2)

/-- An index mapping declares the given types, and these can be written `name=type`. -/
structure Declares (mapping : Value) (declared : List (String × String)) : Prop where
  flattenMapping_eq : Schema.flattenMapping "" mapping = .ok (typesOf declared)
  areNames : ∀ field ∈ declared, field.1 ≠ "" ∧ '=' ∉ field.1.toList ∧ field.2 ≠ ""

/-- A declared type as it is written on the command line. -/
def typeText (field : String × String) : String :=
  field.1 ++ "=" ++ field.2

theorem readTypes_eq {declared : List (String × String)}
    (h : ∀ field ∈ declared, field.1 ≠ "" ∧ '=' ∉ field.1.toList ∧ field.2 ≠ "") (types : Params) :
    readTypes (declared.map typeText) types = .ok (Entries.putAll types (typesOf declared)) := by
  induction declared generalizing types with
  | nil => rfl
  | cons field rest ih =>
    obtain ⟨hname, hmark, htype⟩ := h field List.mem_cons_self
    obtain ⟨c, cs, hcs⟩ := List.exists_cons_of_ne_nil (mt String.toList_eq_nil_iff.mp hname)
    obtain ⟨d, ds, hds⟩ := List.exists_cons_of_ne_nil (mt String.toList_eq_nil_iff.mp htype)
    have hcut : Text.cutAt '=' (typeText field).toList = (field.1.toList, some field.2.toList) := by
      rw [typeText, String.toList_append, String.toList_append, List.append_assoc]
      exact Text.cutAt_append hmark _
    rw [List.map_cons, readTypes, hcut, hcs, hds]
    dsimp only
    rw [← hcs, ← hds, String.ofList_toList, String.ofList_toList,
      ih fun other hother => h other (List.mem_cons_of_mem _ hother)]
    rfl

section Declared

variable {mapping : Value} {declared : List (String × String)} (h : Declares mapping declared)

include h

theorem Declares.nodup : ((typesOf declared).map Prod.fst).Nodup :=
  Schema.nodup_flattenMapping h.flattenMapping_eq

theorem Declares.readTypes_eq : readTypes (declared.map typeText) [] = .ok (typesOf declared) := by
  rw [Cli.readTypes_eq h.areNames]
  exact congrArg Except.ok (Entries.ofPairs_of_nodup h.nodup)

/-- As the types of a model, declared types are a schema. -/
theorem Declares.ofPairs_eq :
    Schema.ofPairs (textEntries (typesOf declared)) = typesOf declared := by
  have hfields : (textEntries (typesOf declared)).map (fun pair => (pair.1.fieldName, pair.2)) =
      typesOf declared := by
    rw [textEntries, List.map_map]
    exact List.map_id _
  rw [Schema.ofPairs, hfields, Entries.ofPairs_of_nodup h.nodup]

theorem Declares.exists_schema :
    ∃ schema, (modelOf (typesOf declared)).schema = .ok schema ∧
      schema.getD [] = typesOf declared := by
  rw [modelOf]
  split
  · next hempty => exact ⟨none, rfl, (List.isEmpty_iff.mp hempty).symm⟩
  · exact ⟨_, rfl, h.ofPairs_eq⟩

end Declared

/-! ## What is compiled -/

/-- The compiler of a search, for a model. -/
def SearchCommand.compiler (command : SearchCommand) (model : Model) : Compiler :=
  .make model ⟨true, none, command.locale, some command.fields⟩ .default

/-- What the query of a search compiles to, with the given types. -/
def SearchCommand.compiled (command : SearchCommand) (types : Params) :
    Except Failure CompiledQuery :=
  ((command.compiler (modelOf types)).compile (Params.ofQuery command.query)
    Settings.default.locale).1

/-- The command that prints what a search sends, when the given types are declared. -/
def SearchCommand.preview (command : SearchCommand) (declared : List (String × String)) :
    CompileCommand :=
  ⟨command.query, declared.map typeText, command.fields, command.locale, true⟩

variable {command : SearchCommand} {mapping : Value} {declared : List (String × String)}

theorem runCompile_preview (h : Declares mapping declared) :
    runCompile (command.preview declared) =
      conclude ((command.compiled (typesOf declared)).bind fun compiled =>
        compiled.json (some 2)) := by
  rw [runCompile, SearchCommand.preview, h.readTypes_eq]
  rfl

/-- The number of the page that a search asks for. -/
def SearchCommand.number (command : SearchCommand) : Int :=
  max command.page 1

/-- The number of records on that page. -/
def SearchCommand.size (command : SearchCommand) : Int :=
  match command.perPage with
  | none | some 0 => Settings.default.defaultPerPage
  | some count => count

/-- Both numbers of the window of a search can be written. -/
def SearchCommand.HasShortWindow (command : SearchCommand) : Prop :=
  (numeral (command.size * (command.number - 1)).natAbs).length ≤ digitLimit ∧
    (numeral command.size.natAbs).length ≤ digitLimit

/-- The search of a command, on an index with the given types. -/
def SearchCommand.search (command : SearchCommand) (types : Params) : Search where
  params := textEntries (Params.ofQuery command.query)
  compiler := command.compiler (.indexed command.index (some (textEntries types)) [])
  page := if command.page = 0 then 1 else command.page
  perPage := command.size
  locales := Settings.default.locale
  compiled := none
  found := none

theorem searchWith_eq (h : Declares mapping declared) :
    searchWith command mapping = .ok (command.search (typesOf declared)) := by
  have hmodel : Model.ofMapping command.index mapping .null =
      .ok (.indexed command.index (some (textEntries (typesOf declared))) []) := by
    rw [Model.ofMapping, h.flattenMapping_eq]
    rfl
  have hparams : (Value.map (textEntries (Params.ofQuery command.query))).entriesOrNone =
      .ok (textEntries (Params.ofQuery command.query)) := by
    cases textEntries (Params.ofQuery command.query) <;> rfl
  have hpage : Search.integerOr 1 (.int command.page) =
      .ok (if command.page = 0 then 1 else command.page) := by
    by_cases hzero : command.page = 0 <;>
      simp [Search.integerOr, Value.isFilled, Value.toInteger, hzero]
  have hperPage : Search.integerOr Settings.default.defaultPerPage
      (Page.optionalNumber command.perPage) = .ok command.size := by
    rw [SearchCommand.size]
    cases command.perPage with
    | none => rfl
    | some count =>
      by_cases hzero : count = 0 <;>
        simp [Page.optionalNumber, Search.integerOr, Value.isFilled, Value.toInteger, hzero]
  rw [searchWith, hmodel]
  show Search.make _ (.map (textEntries (Params.ofQuery command.query))) _ _ = _
  rw [Search.make, hparams]
  show (Search.integerOr 1 _).bind _ = _
  rw [hpage]
  show (Search.integerOr Settings.default.defaultPerPage _).bind _ = _
  rw [hperPage]
  rfl

/-- The search compiles the query to the same as the preview. -/
theorem compile_search (h : Declares mapping declared) :
    ((command.search (typesOf declared)).compiler.compile
        (Params.ofEntries (command.search (typesOf declared)).params) Settings.default.locale).1 =
      command.compiled (typesOf declared) := by
  obtain ⟨schema, hschema, hsame⟩ := h.exists_schema
  have hschema' : (command.compiler (modelOf (typesOf declared))).model.schema = .ok schema :=
    hschema
  have hmodel : (Model.indexed command.index (some (textEntries (typesOf declared))) []).schema =
      .ok (some (Schema.ofPairs (textEntries (typesOf declared)))) := rfl
  have hparams : Params.ofEntries (command.search (typesOf declared)).params =
      Params.ofQuery command.query := ofEntries_params_ofQuery command.query
  rw [hparams]
  exact congrArg Prod.fst
    (Compiler.compile_withModel hschema' hmodel (hsame.trans h.ofPairs_eq.symm) _ _)

/-! ## The request body -/

variable {compiled : CompiledQuery}

theorem bodyFields_keys (compiled : CompiledQuery) :
    compiled.bodyFields.map Prod.fst = ["query", "sort"] ∨
      compiled.bodyFields.map Prod.fst = ["query", "sort", "_source"] := by
  rw [CompiledQuery.bodyFields, CompiledQuery.sourcePart]
  split
  · exact .inr rfl
  · exact .inl rfl

theorem writable_body_of_compiled {types : Params} (h : command.compiled types = .ok compiled) :
    Json.Writable compiled.body :=
  Compiler.writable_body_of_compile rfl rfl h fun _ hentry => writable_of_mem_ofQuery hentry

theorem isBody_of_compiled {types : Params} (h : command.compiled types = .ok compiled) :
    Client.IsBody compiled.bodyFields := by
  have hwritable := writable_body_of_compiled h
  refine ⟨?_, hwritable.inFormat, hwritable.exists_render none⟩
  rcases bodyFields_keys compiled with hkeys | hkeys <;> rw [hkeys] <;> decide

/-- A request body as it is read: the fields of a compiled query as JSON can tell them apart. -/
def readFields (compiled : CompiledQuery) : List (String × Value) :=
  compiled.bodyFields.map fun field => (field.1, Json.reread field.2)

/-- What compiles is printed, and read from the print as it is. -/
theorem exists_runCompile (h : Declares mapping declared)
    (hcompiled : command.compiled (typesOf declared) = .ok compiled) :
    ∃ text : String, runCompile (command.preview declared) = .ok (.success text) ∧
      Json.parse text = .ok (.record (readFields compiled)) := by
  have hwritable := writable_body_of_compiled hcompiled
  obtain ⟨text, htext⟩ := hwritable.exists_render (some 2)
  have hread := Json.parse_render hwritable.inFormat htext
  rw [CompiledQuery.body, Json.reread_record (isBody_of_compiled hcompiled).nodup] at hread
  refine ⟨text, ?_, hread⟩
  rw [runCompile_preview h, hcompiled]
  show conclude (Json.render (some 2) compiled.body) = _
  rw [htext]
  rfl

/-- The request for the page of a command has the window after the fields of the compiled query, if
the window can be written. -/
theorem searchRequest_of_compiled {types : Params} (h : command.compiled types = .ok compiled) :
    (command.HasShortWindow →
      ∃ text : String, Client.searchRequest compiled.body (.int (command.search types).page)
          (.int command.size) = .ok (text, command.number, command.size) ∧
        Json.parse text = .ok (.record (readFields compiled ++
          [("from", .int (command.size * (command.number - 1))), ("size", .int command.size)]))) ∧
      (¬ command.HasShortWindow →
        Client.searchRequest compiled.body (.int (command.search types).page)
          (.int command.size) = .error .integerTooLong) := by
  have hbody := isBody_of_compiled h
  have hfrom : "from" ∉ compiled.bodyFields.map Prod.fst := by
    rcases bodyFields_keys compiled with hkeys | hkeys <;> rw [hkeys] <;> decide
  have hsize : "size" ∉ compiled.bodyFields.map Prod.fst := by
    rcases bodyFields_keys compiled with hkeys | hkeys <;> rw [hkeys] <;> decide
  have hnumber : max (command.search types).page 1 = command.number := by
    show max (if command.page = 0 then 1 else command.page) 1 = max command.page 1
    split <;> omega
  have hrequest : Client.searchRequest compiled.body (.int (command.search types).page)
      (.int command.size) =
        (Json.render none (Client.window (textEntries compiled.bodyFields) command.number
          command.size)).bind fun text => .ok (text, command.number, command.size) := by
    rw [← hnumber]
    exact Client.searchRequest_record _ _ _
  rw [hrequest]
  constructor
  · rintro ⟨hshortFrom, hshortSize⟩
    obtain ⟨text, htext, hread⟩ :=
      Client.exists_parse_windowFields hbody command.number command.size hshortFrom hshortSize
    refine ⟨text, by rw [htext]; rfl, ?_⟩
    rw [hread, Client.windowFields_eq_append hfrom hsize, List.map_append]
    rfl
  · intro hlong
    rw [Client.render_window_eq_error hbody hlong]
    rfl

/-! ## Searching -/

/-- The addresses at which a client asks for the mapping of an index and searches it. -/
structure Asks {α : Type} [Resolver α] (client : Client α) (index : String) (asked posted : α) :
    Prop where
  exists_base : ∃ base, client.base = some base ∧
    Resolver.resolve base ("/" ++ index ++ "/_mapping") = .ok asked ∧
    Resolver.resolve base ("/" ++ index ++ "/_search") = .ok posted

section Searching

variable {α ω : Type} [Resolver α] {server : Server ω} {environment : Environment}
  {client : Client α} {state state' : ω}

/-- A client to which a mapping has come can also search. -/
theorem exists_asks [LawfulResolver α] (command : SearchCommand)
    (hmapping : client.mapping server command.index state = (.ok mapping, state')) :
    ∃ asked posted, Asks client command.index asked posted ∧
      ∀ log, client.mapping (recorded server) command.index (state, log) =
        (.ok mapping, state', log ++ [client.request asked .get ""]) := by
  obtain ⟨base, asked, hbase, hasked, hrecorded⟩ := Client.exists_mapping_recorded hmapping
  obtain ⟨posted, hposted⟩ := LawfulResolver.exists_search hasked
  exact ⟨asked, posted, ⟨base, hbase, hasked, hposted⟩, hrecorded⟩

variable (hclient : (Client.make command.url none environment).enter = .ok client)

include hclient

/-- Once the mapping has come, the search is made with the types that it declares. -/
theorem runSearch_of_mapping
    (hmapping : client.mapping server command.index state = (.ok mapping, state'))
    (h : Declares mapping declared) :
    runSearch α server environment command state =
      let answered := (command.search (typesOf declared)).results (client.backend server) state'
      (conclude (answered.1.bind summary), answered.2.2) := by
  have hsearch : (Except.ok mapping).bind (searchWith command) =
      .ok (command.search (typesOf declared)) := searchWith_eq h
  delta runSearch
  rw [hclient]
  dsimp only
  rw [hmapping]
  dsimp only
  rw [hsearch]

variable {asked posted : α} (hasks : Asks client command.index asked posted)
  (hmapping : client.mapping (recorded server) command.index (state, []) =
    (.ok mapping, state', [client.request asked .get ""]))
  (h : Declares mapping declared)

include hasks hmapping h

/-- What compiles is posted with the window of the page, unless that cannot be written. -/
theorem runSearch_of_compiled (hcompiled : command.compiled (typesOf declared) = .ok compiled) :
    (command.HasShortWindow → ∃ body : String,
      (runSearch α (recorded server) environment command (state, [])).2.2 =
          [client.request asked .get "", client.request posted .post body] ∧
        Json.parse body = .ok (.record (readFields compiled ++
          [("from", .int (command.size * (command.number - 1))), ("size", .int command.size)]))) ∧
      (¬ command.HasShortWindow →
        (runSearch α (recorded server) environment command (state, [])).1 =
            .error .integerTooLong ∧
          (runSearch α (recorded server) environment command (state, [])).2.2 =
            [client.request asked .get ""]) := by
  obtain ⟨base, hbase, _, hposted⟩ := hasks.exists_base
  obtain ⟨hanswer, hlog⟩ := Search.results_of_compile_eq_ok rfl rfl rfl
    ((compile_search h).trans hcompiled) (client.backend (recorded server))
    (state', [client.request asked .get ""])
  obtain ⟨hshort, hlong⟩ := searchRequest_of_compiled hcompiled
  rw [runSearch_of_mapping hclient hmapping h]
  dsimp only
  rw [hanswer, hlog]
  refine ⟨fun hwindow => ?_, fun hwindow => ?_⟩
  · obtain ⟨body, hrequest, hread⟩ := hshort hwindow
    have hsearch := Client.search_recorded server hbase hposted hrequest state'
      [client.request asked .get ""]
    refine ⟨body, ?_, hread⟩
    exact congrArg (fun answered => answered.2.2) hsearch
  · have hsearch : (client.backend (recorded server)).search
        ((command.search (typesOf declared)).callFor command.index compiled)
        (state', [client.request asked .get ""]) =
          (.error .integerTooLong, state', [client.request asked .get ""]) :=
      Client.search_of_error hbase (hlong hwindow) _
    rw [hsearch]
    exact ⟨rfl, rfl⟩

omit hasks in
/-- What does not compile is not sent. -/
theorem runSearch_of_error {e : Failure}
    (hcompiled : command.compiled (typesOf declared) = .error e) :
    (runSearch α (recorded server) environment command (state, [])).1 = conclude (.error e) ∧
      (runSearch α (recorded server) environment command (state, [])).2.2 =
        [client.request asked .get ""] := by
  obtain ⟨hanswer, hlog⟩ := Search.results_of_compile_eq_error rfl rfl rfl
    ((compile_search h).trans hcompiled) (client.backend (recorded server))
    (state', [client.request asked .get ""])
  rw [runSearch_of_mapping hclient hmapping h]
  dsimp only
  rw [hanswer, hlog]
  exact ⟨rfl, rfl⟩

end Searching

/-! ## The result -/

/-- The command `compile` previews the command `search`.  Let an index mapping declare types that
can be written `name=type`, and let `compile` be given all of them.  If the query compiles,
`compile` prints the request body, and `search` asks for the mapping and posts the same body with
the window of its page after it; a window with a number that is too long to be written is not
posted.  If a date in the query cannot be read, both commands end with exit code 1, and `search`
posts nothing. -/
theorem search_posts_preview {α ω : Type} [Resolver α] [LawfulResolver α] {server : Server ω}
    {environment : Environment} {client : Client α} {state state' : ω} (command : SearchCommand)
    (hclient : (Client.make command.url none environment).enter = .ok client)
    (hmapping : client.mapping server command.index state = (.ok mapping, state'))
    (h : Declares mapping declared) :
    ∃ asked posted, Asks client command.index asked posted ∧
      (∀ compiled, command.compiled (typesOf declared) = .ok compiled →
        ∃ (text : String) (fields : List (String × Value)),
          runCompile (command.preview declared) = .ok (.success text) ∧
          Json.parse text = .ok (.record fields) ∧
          (command.HasShortWindow → ∃ body : String,
            (runSearch α (recorded server) environment command (state, [])).2.2 =
                [client.request asked .get "", client.request posted .post body] ∧
              Json.parse body = .ok (.record (fields ++
                [("from", .int (command.size * (command.number - 1))),
                  ("size", .int command.size)]))) ∧
          (¬ command.HasShortWindow →
            (runSearch α (recorded server) environment command (state, [])).1 =
                .error .integerTooLong ∧
              (runSearch α (recorded server) environment command (state, [])).2.2 =
                [client.request asked .get ""])) ∧
      ∀ s reason, command.compiled (typesOf declared) = .error (.unreadableDate s reason) →
        ∃ outcome : Outcome, outcome.exitCode = 1 ∧
          runCompile (command.preview declared) = .ok outcome ∧
          (runSearch α (recorded server) environment command (state, [])).1 = .ok outcome ∧
          (runSearch α (recorded server) environment command (state, [])).2.2 =
            [client.request asked .get ""] := by
  obtain ⟨asked, posted, hasks, hrecorded⟩ := exists_asks command hmapping
  refine ⟨asked, posted, hasks, fun compiled hcompiled => ?_, fun s reason hdate => ?_⟩
  · obtain ⟨text, hprinted, hread⟩ := exists_runCompile h hcompiled
    exact ⟨text, readFields compiled, hprinted, hread,
      runSearch_of_compiled hclient hasks (hrecorded []) h hcompiled⟩
  · obtain ⟨hresult, hlog⟩ := runSearch_of_error hclient (hrecorded []) h hdate
    refine ⟨_, ?_, ?_, hresult, hlog⟩
    · rfl
    · rw [runCompile_preview h, hdate]
      rfl

/-! ## A preview -/

/-- A server that gives the same value in answer to every request. -/
def answering (value : Value) : Server Unit := fun _ state =>
  (match Json.render none value with
    | .ok body => .response 200 body
    | .error _ => .unreachable, state)

theorem read_answering {value : Value} (h : Client.IsPlain value) (request : Request)
    (state : Unit) : Client.Reply.read none (answering value request state).1 = .ok value := by
  obtain ⟨body, hbody⟩ := h.writable.exists_render none
  have hread := Json.parse_render h.inFormat hbody
  rw [answering, hbody]
  show Json.parse body = _
  rw [hread, h.reread_eq]

/-- A mapping with a field and a field below another one. -/
def noteMapping : Value :=
  .record [("mappings", .record [("properties", .record
    [("day", .record [("type", .text "date")]),
      ("author", .record [("properties",
        .record [("name", .record [("type", .text "text")])])])])])]

/-- The types that this mapping declares. -/
def noteTypes : List (String × String) :=
  [("day", "date"), ("author.name", "text")]

theorem declares_noteMapping : Declares noteMapping noteTypes :=
  ⟨by rfl, by decide⟩

/-- The answer to a question for the mapping of the index `notes`. -/
def noteResponse : Value :=
  .record [("notes", noteMapping)]

theorem isPlain_noteResponse : Client.IsPlain noteResponse := by
  have hone : ∀ (name : String) {value : Value}, Client.IsPlain value →
      Client.IsPlain (.record [(name, value)]) := fun name value h =>
    Client.isPlain_record (List.nodup_singleton name) (List.forall_mem_singleton.mpr h)
  have htype : ∀ type, Client.IsPlain (.record [("type", .text type)]) := fun type =>
    hone "type" (Client.isPlain_text type)
  refine hone "notes" (hone "mappings" (hone "properties" (Client.isPlain_record (by decide) ?_)))
  rw [List.forall_mem_cons, List.forall_mem_singleton]
  exact ⟨htype "date", hone "properties" (hone "name" (htype "text"))⟩

theorem mapping_localClient :
    localClient.mapping (answering noteResponse) "notes" () = (.ok noteMapping, ()) := by
  have hresolve : Resolver.resolve Client.localAddress ("/" ++ "notes" ++ "/_mapping") =
      .ok { Client.localAddress with path := "/notes/_mapping".toList } := by decide +kernel
  have hrefusal : Resolver.refusal? { Client.localAddress with path := "/notes/_mapping".toList } =
      none := by decide +kernel
  have hbase : localClient.base = some Client.localAddress := rfl
  rw [Client.mapping, Client.send, hbase]
  dsimp only
  rw [hresolve]
  dsimp only
  rw [hrefusal, read_answering isPlain_noteResponse]
  rfl

/-- A search for the second page. -/
def secondPage : SearchCommand :=
  ⟨"day_gteq=01.02.2024&author.name_or_title_cont=a&s=day", "notes", none, 2, some 10, ["day"],
    some "de"⟩

/-- A search with a date that cannot be read. -/
def misdated : SearchCommand :=
  ⟨"day_gteq=99.01.2024", "notes", none, 1, none, [], none⟩

theorem search_posts_preview_secondPage :
    (Client.make none none ⟨none, none⟩).enter = .ok localClient ∧
      localClient.mapping (answering noteResponse) "notes" () = (.ok noteMapping, ()) ∧
      Declares noteMapping noteTypes ∧
      (∃ (text : String) (fields : List (String × Value)) (body : String),
        runCompile (secondPage.preview noteTypes) = .ok (.success text) ∧
        Json.parse text = .ok (.record fields) ∧
        body ∈ (runSearch Address (recorded (answering noteResponse)) ⟨none, none⟩ secondPage
          ((), [])).2.2.map Request.body ∧
        Json.parse body = .ok (.record (fields ++ [("from", .int 10), ("size", .int 10)]))) ∧
      ∃ outcome : Outcome, outcome.exitCode = 1 ∧
        runCompile (misdated.preview noteTypes) = .ok outcome ∧
        (runSearch Address (recorded (answering noteResponse)) ⟨none, none⟩ misdated ((), [])).1 =
          .ok outcome := by
  have hclient : (Client.make none none ⟨none, none⟩).enter = .ok localClient :=
    Client.enter_localClient
  refine ⟨hclient, mapping_localClient, declares_noteMapping, ?_, ?_⟩
  · obtain ⟨asked, posted, -, hcompiles, -⟩ :=
      search_posts_preview secondPage hclient mapping_localClient declares_noteMapping
    have hok : (secondPage.compiled (typesOf noteTypes)).isOk = true := by decide +kernel
    obtain ⟨compiled, hcompiled⟩ := exists_eq_ok hok
    obtain ⟨text, fields, hprinted, hread, hshort, -⟩ := hcompiles compiled hcompiled
    obtain ⟨body, hlog, hbody⟩ := hshort ⟨by decide, by decide⟩
    exact ⟨text, fields, body, hprinted, hread, by rw [hlog]; simp [Client.request], hbody⟩
  · obtain ⟨asked, posted, -, -, hfails⟩ :=
      search_posts_preview misdated hclient mapping_localClient declares_noteMapping
    have hdate : failure? (misdated.compiled (typesOf noteTypes)) =
        some (.unreadableDate "99.01.2024" "no format matches '99.01.2024'") := by
      decide +kernel
    obtain ⟨outcome, hexit, hcompile, hsearch, -⟩ := hfails _ _ (failure?_eq_some.mp hdate)
    exact ⟨outcome, hexit, hcompile, hsearch⟩

/-! ## Pages that are too far -/

/-- A search for a page whose window starts at a number that is too long to be written. -/
def farPage : SearchCommand :=
  ⟨"s=day", "notes", none, (10 ^ (digitLimit - 1) : Nat), none, [], none⟩

theorem not_hasShortWindow_farPage : ¬ farPage.HasShortWindow := by
  rintro ⟨hfrom, -⟩
  have hnumber : farPage.number = max ((10 ^ (digitLimit - 1) : Nat) : Int) 1 := rfl
  have hsize : farPage.size = 50 := rfl
  obtain ⟨k, hlimit⟩ : ∃ k, digitLimit = k + 1 + 1 := ⟨4298, rfl⟩
  have hfar : 1 < 10 ^ (k + 1) := Nat.one_lt_pow (Nat.succ_ne_zero k) (by decide)
  rw [length_numeral_le_iff, hnumber, hsize, hlimit, Nat.add_sub_cancel, pow_succ 10 (k + 1)]
    at hfrom
  generalize 10 ^ (k + 1) = far at hfar hfrom
  omega

/-- The query compiles and is printed, but nothing is posted. -/
theorem not_posted_farPage :
    (Client.make farPage.url none ⟨none, none⟩).enter = .ok localClient ∧
      localClient.mapping (answering noteResponse) farPage.index () = (.ok noteMapping, ()) ∧
      Declares noteMapping noteTypes ∧
      (∃ (text : String) (fields : List (String × Value)),
        runCompile (farPage.preview noteTypes) = .ok (.success text) ∧
        Json.parse text = .ok (.record fields)) ∧
      ∀ request ∈ (runSearch Address (recorded (answering noteResponse)) ⟨none, none⟩ farPage
        ((), [])).2.2, request.method ≠ .post := by
  have hclient : (Client.make farPage.url none ⟨none, none⟩).enter = .ok localClient :=
    Client.enter_localClient
  have hok : (farPage.compiled (typesOf noteTypes)).isOk = true := by decide +kernel
  obtain ⟨compiled, hcompiled⟩ := exists_eq_ok hok
  obtain ⟨text, hprinted, hread⟩ := exists_runCompile declares_noteMapping hcompiled
  obtain ⟨asked, posted, hasks, hrecorded⟩ := exists_asks farPage mapping_localClient
  obtain ⟨-, hlong⟩ :=
    runSearch_of_compiled hclient hasks (hrecorded []) declares_noteMapping hcompiled
  obtain ⟨-, hlog⟩ := hlong not_hasShortWindow_farPage
  refine ⟨hclient, mapping_localClient, declares_noteMapping,
    ⟨text, readFields compiled, hprinted, hread⟩, fun request hrequest => ?_⟩
  rw [hlog] at hrequest
  rw [List.mem_singleton.mp hrequest]
  exact fun hpost => nomatch hpost

end SearchFilter.Cli
