import SearchFilter.Proofs.Client.Sent
import SearchFilter.Proofs.Client.Walk
import SearchFilter.Proofs.Json.Forms

/-!
# A page describes what was posted

The window of a search is computed twice, once for the request and once from the page that is made
of the reply.  Both come to the same, for all numbers: `search_posted`.  `Carries` says what is in
the request, `Describes` what is in the page, and `Settles` what becomes of a reply.
-/

namespace SearchFilter.Client

open SearchFilter.Http SearchFilter.Number

/-! ## Requests and pages -/

/-- Both numbers of a window can be written. -/
structure IsShortWindow (first count : Int) : Prop where
  first : (numeral first.natAbs).length ≤ digitLimit
  count : (numeral count.natAbs).length ≤ digitLimit

theorem not_isShortWindow_of_le {first : Int} {count : Nat} (h : 10 ^ digitLimit ≤ count) :
    ¬ IsShortWindow first count :=
  fun hshort => Nat.not_lt.mpr h (length_numeral_le_iff.mp hshort.count)

theorem not_isShortWindow_of_le_first {first : Nat} {count : Int} (h : 10 ^ digitLimit ≤ first) :
    ¬ IsShortWindow first count :=
  fun hshort => Nat.not_lt.mpr h (length_numeral_le_iff.mp hshort.first)

/-- What is sent for a request body: a window, whatever the body says of it, and everything else as
the body has it, in the form that JSON gives to it. -/
structure Carries (fields : List (String × Value)) (first count : Int)
    (sent : List (String × Value)) : Prop where
  nodup : (sent.map Prod.fst).Nodup
  lookup_from : sent.lookup "from" = some (.int first)
  lookup_size : sent.lookup "size" = some (.int count)
  lookup_of_ne : ∀ name, name ≠ "from" → name ≠ "size" →
    sent.lookup name = (fields.lookup name).map Json.form

/-- A page that says what was sent, and what came back. -/
structure Describes (sent : List (String × Value)) (number : Int) (hits : List Value) (total : Int)
    (found : Page) : Prop where
  lookup_from : sent.lookup "from" = some (.int found.offset)
  lookup_size : sent.lookup "size" = some (.int found.perPage)
  currentPage : found.currentPage = max number 1
  hits : found.hits = .list hits
  totalEntries : found.totalEntries = total

/-- What becomes of a reply to a request: a page that describes both, or a failure and no page. -/
structure Settles (sent : List (String × Value)) (number : Int) (reply : Reply)
    (result : Except Failure Page) : Prop where
  of_success : ∀ status body response hits total, reply = .response status body →
    200 ≤ status → status < 300 → Json.parse body = .ok response → Answers response hits total →
    ∃ found, result = .ok found ∧ Describes sent number hits total found
  of_failure : ∀ status body, reply = .response status body → ¬ (200 ≤ status ∧ status < 300) →
    result = .error (.badStatus status)

section Searches

variable {α ω : Type} [Resolver α] {client : Client α} {index url : String}
  {fields : List (String × Value)} {number perPage : Int}

/-- Who reads the request for a page finds the body with the window. -/
theorem exists_carries (hbody : IsBody fields)
    (hproper : ∀ field ∈ fields, field.2.isProper = true)
    (hshort : IsShortWindow (perPage * (number - 1)) perPage) :
    ∃ text sent, Json.render none (window (Value.textEntries fields) number perPage) = .ok text ∧
      Json.parse text = .ok (.record sent) ∧
      Carries fields (perPage * (number - 1)) perPage sent := by
  obtain ⟨text, htext, hread⟩ :=
    exists_parse_windowFields hbody number perPage hshort.first hshort.count
  obtain ⟨hfrom, hsize⟩ := lookup_windowFields fields number perPage
  refine ⟨text, _, htext, hread, ?_, ?_, ?_, fun name hne hne' => ?_⟩
  · rw [List.map_map]
    exact nodup_windowFields hbody.nodup number perPage
  · rw [Entries.lookup_map_snd, hfrom]
    rfl
  · rw [Entries.lookup_map_snd, hsize]
    rfl
  · rw [Entries.lookup_map_snd, windowFields, Entries.lookup_put_of_ne hne',
      Entries.lookup_put_of_ne hne]
    cases hlookup : fields.lookup name with
    | none => rfl
    | some value =>
      have hvalue := hproper _ (Entries.mem_of_lookup_eq_some hlookup)
      exact congrArg some (Json.reread_eq_form value hvalue)

/-- The window of the page that is made of a reply is the one that was sent. -/
theorem settles_of_carries {sent : List (String × Value)}
    (hcarries : Carries fields (perPage * (max number 1 - 1)) perPage sent) (reply : Reply) :
    Settles sent number reply ((Reply.read none reply).bind fun response =>
      pageOf response (max number 1) perPage) := by
  constructor
  · rintro status body response hits total rfl hleast hgreatest hparse hanswers
    have hstatus : (200 ≤ status && status < 300) = true := by simp [hleast, hgreatest]
    refine ⟨⟨.list hits, total, perPage, max number 1, response⟩, ?_, ?_, ?_, rfl, rfl, rfl⟩
    · rw [Reply.read, if_pos hstatus, hparse]
      exact hanswers.pageOf _ _
    · rw [hcarries.lookup_from, Page.offset, Int.mul_comm]
    · exact hcarries.lookup_size
  · rintro status body rfl houtside
    have hstatus : ¬ (200 ≤ status && status < 300) = true := by simpa using houtside
    rw [Reply.read, if_neg hstatus]
    rfl

/-- A window with a number that is too long is not sent. -/
theorem search_of_not_isShortWindow (hreaches : Reaches client index url) (hbody : IsBody fields)
    (hlong : ¬ IsShortWindow (perPage * (max number 1 - 1)) perPage) (server : Server ω)
    (state : ω) :
    client.search server index (.record fields) (.int number) (.int perPage) state =
      (.error .integerTooLong, state) := by
  obtain ⟨base, _, hbase, _⟩ := hreaches.exists_address
  have hrequest := searchRequest_record fields number perPage
  rw [render_window_eq_error hbody fun h => hlong ⟨h.1, h.2⟩] at hrequest
  exact search_of_error hbase hrequest state

/-- For every page number and size of page, an open client posts the request body with its own
window, and a page that it makes of the reply has that window, the hits of the reply and the number
of entries that it reports.  If a number of the window is too long to be written, nothing is
posted. -/
theorem search_posted (hreaches : Reaches client index url) (hbody : IsBody fields)
    (hproper : ∀ field ∈ fields, field.2.isProper = true)
    (server : Server ω) (number perPage : Int) (state : ω) (log : List Request) :
    (IsShortWindow (perPage * (max number 1 - 1)) perPage →
      ∃ request sent result,
        client.search (recorded server) index (.record fields) (.int number) (.int perPage)
            (state, log) = (result, (server request state).2, log ++ [request]) ∧
          request.method = .post ∧ request.url = url ∧
          Json.parse request.body = .ok (.record sent) ∧
          Carries fields (perPage * (max number 1 - 1)) perPage sent ∧
          Settles sent number (server request state).1 result) ∧
      (¬ IsShortWindow (perPage * (max number 1 - 1)) perPage →
        client.search (recorded server) index (.record fields) (.int number) (.int perPage)
            (state, log) = (.error .integerTooLong, state, log)) := by
  refine ⟨fun hshort => ?_,
    fun hlong => search_of_not_isShortWindow hreaches hbody hlong (recorded server) (state, log)⟩
  obtain ⟨base, address, hbase, hresolve, haddress, htaken⟩ := hreaches.exists_address
  obtain ⟨text, sent, htext, hparse, hcarries⟩ := exists_carries hbody hproper hshort
  have hrequest := searchRequest_record fields number perPage
  rw [htext] at hrequest
  have hsent := search_recorded server hbase hresolve hrequest state log
  rw [htaken] at hsent
  exact ⟨client.request address .post text, sent, _, hsent, rfl, haddress, hparse, hcarries,
    settles_of_carries hcarries _⟩

end Searches

/-! ## Searches with and without a page -/

/-- A response that reports a number of entries and gives no hits. -/
def countResponse : Value :=
  .record [("hits", .record [("total", .int 7)])]

/-- A server that answers with this response. -/
def counting : Server Unit := fun _ state =>
  (.response 200 "\x7b\"hits\": \x7b\"total\": 7\x7d\x7d", state)

theorem parse_countResponse :
    Json.parse "\x7b\"hits\": \x7b\"total\": 7\x7d\x7d" = .ok countResponse := by
  have hplain : IsPlain countResponse := by
    refine isPlain_record (by simp) (List.forall_mem_singleton.mpr ?_)
    exact isPlain_record (by simp) (List.forall_mem_singleton.mpr (isPlain_int (by decide)))
  have htext : Json.render none countResponse =
      .ok "\x7b\"hits\": \x7b\"total\": 7\x7d\x7d" := rfl
  exact hplain.parse_eq htext

theorem isDate_datedFields : Calendar.IsDate 2024 2 1 := by decide

/-- A body with a size of its own, and with a date. -/
def datedFields : List (String × Value) :=
  [("size", .int 1), ("day", .date ⟨2024, 2, 1, isDate_datedFields⟩)]

theorem isBody_datedFields : IsBody datedFields :=
  ⟨by decide, rfl, _, rfl⟩

/-- The third page of ten: the window replaces the size in the body. -/
theorem search_posted_datedFields :
    Reaches localClient "users" "http://localhost:9200/users/_search" ∧ IsBody datedFields ∧
      (∀ field ∈ datedFields, field.2.isProper = true) ∧ IsShortWindow 20 10 ∧
      ∃ request sent found,
        localClient.search (recorded counting) "users" (.record datedFields) (.int 3) (.int 10)
            ((), []) = (.ok found, (), [request]) ∧
          Json.parse request.body = .ok (.record sent) ∧
          sent.lookup "size" = some (.int 10) ∧ sent.lookup "day" = some (.text "2024-02-01") ∧
          Describes sent 3 [] 7 found := by
  have hproper : ∀ field ∈ datedFields, field.2.isProper = true := by
    simp only [datedFields, List.forall_mem_cons, List.not_mem_nil, false_implies, implies_true]
    exact ⟨rfl, rfl, trivial⟩
  have hshort : IsShortWindow 20 10 := ⟨by decide, by decide⟩
  obtain ⟨request, sent, result, hsearch, _, _, hparse, hcarries, hsettles⟩ :=
    (search_posted reaches_localClient isBody_datedFields hproper counting 3 10 () []).1 hshort
  have hanswers : Answers countResponse [] 7 :=
    @Answers.intro _ (some _) none 7 rfl rfl (.number 7)
  obtain ⟨found, rfl, hfound⟩ := hsettles.of_success 200 _ _ [] 7 rfl (by decide) (by decide)
    parse_countResponse hanswers
  exact ⟨reaches_localClient, isBody_datedFields, hproper, hshort, request, sent, found, hsearch,
    hparse, hcarries.lookup_size, hcarries.lookup_of_ne "day" (by decide) (by decide), hfound⟩

/-- The least size of page that is too long to be written: nothing is posted, and there is no
page. -/
theorem not_posted_longSize :
    Reaches localClient "users" "http://localhost:9200/users/_search" ∧ IsBody [] ∧
      localClient.search (recorded counting) "users" (.record []) (.int 1)
          (.int (10 ^ digitLimit : Nat)) ((), []) = (.error .integerTooLong, (), []) := by
  exact ⟨reaches_localClient, isBody_nil, search_of_not_isShortWindow reaches_localClient
    isBody_nil (not_isShortWindow_of_le (Nat.le_refl _)) (recorded counting) ((), [])⟩

end SearchFilter.Client
