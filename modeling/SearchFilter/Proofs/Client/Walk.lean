import SearchFilter.Address.Resolver
import SearchFilter.Proofs.Client.Slices

/-!
# Following the next page

A walk starts at the first page of a search and asks for the next page as long as there is one
(`Walk`).  With a server that answers with slices, it ends after as many requests as the hits fill
pages, and has seen every hit once: `exists_walk`, where `Covers` lists what is known of the pages.

`exists_walk_from` is the induction, on the number of pages that are left: one search finds the
window of its page (`exists_search`), and the window says whether there is another.

The size of a page goes to the server as a numeral, so it must not be too long to be written
(`Walk.length_numeral`).
-/

namespace SearchFilter.Client

open SearchFilter.Http SearchFilter.Number
open Page (IsWindow exactCount)

variable {α ω : Type} [Resolver α]

/-- The pages from one page on, each followed by the one that it names as the next. -/
inductive Walk (server : Server ω) (client : Client α) (index : String) (body perPage : Value) :
    Int → ω → List Page → ω → Prop
  | last {number : Int} {state state' : ω} {page : Page}
      (hsearch : client.search server index body (.int number) perPage state = (.ok page, state'))
      (hnext : page.nextPage = .ok none) :
      Walk server client index body perPage number state [page] state'
  | next {number after : Int} {state state' final : ω} {page : Page} {pages : List Page}
      (hsearch : client.search server index body (.int number) perPage state = (.ok page, state'))
      (hnext : page.nextPage = .ok (some after))
      (hrest : Walk server client index body perPage after state' pages final) :
      Walk server client index body perPage number state (page :: pages) final

section Walks

variable {server : Server ω} {client : Client α} {index : String} {body perPage : Value}
  {number : Int} {state state' final final' : ω} {page : Page} {pages pages' : List Page}

/-- A walk starts with the page that is found, and goes on as that page says. -/
theorem Walk.of_search (h : Walk server client index body perPage number state pages final)
    (hsearch : client.search server index body (.int number) perPage state = (.ok page, state')) :
    (page.nextPage = .ok none ∧ pages = [page] ∧ final = state') ∨
      ∃ after rest, page.nextPage = .ok (some after) ∧ pages = page :: rest ∧
        Walk server client index body perPage after state' rest final := by
  cases h with
  | last hsearch' hnext =>
    rw [hsearch] at hsearch'
    cases hsearch'
    exact .inl ⟨hnext, rfl, rfl⟩
  | next hsearch' hnext hrest =>
    rw [hsearch] at hsearch'
    cases hsearch'
    exact .inr ⟨_, _, hnext, rfl, hrest⟩

/-- There is one walk at most. -/
theorem Walk.unique (h : Walk server client index body perPage number state pages final)
    (h' : Walk server client index body perPage number state pages' final') :
    pages = pages' ∧ final = final' := by
  induction h generalizing pages' final' with
  | last hsearch hnext =>
    obtain ⟨_, rfl, rfl⟩ | ⟨_, _, hnext', _⟩ := h'.of_search hsearch
    · exact ⟨rfl, rfl⟩
    · rw [hnext] at hnext'
      cases hnext'
  | next hsearch hnext _ ih =>
    obtain ⟨hnext', _⟩ | ⟨_, _, hnext', rfl, hrest⟩ := h'.of_search hsearch
    · rw [hnext] at hnext'
      cases hnext'
    · rw [hnext] at hnext'
      cases hnext'
      obtain ⟨rfl, rfl⟩ := ih hrest
      exact ⟨rfl, rfl⟩

end Walks

/-! ## Following the pages -/

section Sliced

variable {server : Server ω} {client : Client α} {index url : String} {hits : List Value}
  {fields : List (String × Value)} {perPage : Nat}

/-- The start of a window of an existing page is not too long to be written. -/
theorem length_numeral_start (hhits : hits.length ≤ 2 ^ 53) (hperPage : 0 < perPage) {number : Nat}
    (hnumber : number ≤ exactCount hits.length perPage) :
    (numeral (perPage * (number - 1))).length ≤ digitLimit := by
  have hstart : perPage * (number - 1) ≤ 2 ^ 53 := by
    rcases Nat.lt_or_ge 1 number with hlater | hfirst
    · have hbefore : number - 1 < exactCount hits.length perPage := by omega
      have hlt := Page.mul_lt_of_lt_exactCount hperPage (by omega) hbefore
      omega
    · rw [Nat.sub_eq_zero_of_le hfirst, Nat.mul_zero]
      exact Nat.zero_le _
  have hdigits : (Nat.toDigits 10 (perPage * (number - 1))).length ≤ 16 :=
    (Nat.length_toDigits_le_iff (by decide) (by decide)).mpr (by omega)
  rw [numeral, String.length_ofList]
  exact hdigits.trans (by decide)

/-- From any page on, the pages that are left are found one after the other. -/
theorem exists_walk_from (hreaches : Reaches client index url)
    (hslices : Slices server url hits) (hbody : IsBody fields) (hhits : hits.length ≤ 2 ^ 53)
    (hperPage : 0 < perPage) (hsize : (numeral perPage).length ≤ digitLimit) {left number : Nat}
    (hnumber : 1 ≤ number) (hleft : number + left = exactCount hits.length perPage) (state : ω)
    (log : List Request) :
    ∃ pages final requests,
      Walk (recorded server) client index (.record fields) (.int perPage) number (state, log)
          pages (final, log ++ requests) ∧
        requests.length = left + 1 ∧
        List.Forall₂ (IsWindow hits perPage) (List.range' number (left + 1)) pages := by
  induction left generalizing number state log with
  | zero =>
    obtain ⟨page, state', request, hsearch, hpage⟩ := exists_search hreaches hslices hbody hnumber
      (length_numeral_start hhits hperPage (by omega)) hsize state log
    have hnext := hpage.nextPage hhits hperPage
    rw [if_neg (by omega)] at hnext
    exact ⟨[page], state', [request], .last hsearch hnext, rfl, .cons hpage .nil⟩
  | succ left ih =>
    obtain ⟨page, state', request, hsearch, hpage⟩ := exists_search hreaches hslices hbody hnumber
      (length_numeral_start hhits hperPage (by omega)) hsize state log
    have hnext := hpage.nextPage hhits hperPage
    rw [if_pos (by omega)] at hnext
    have hleft' : number + 1 + left = exactCount hits.length perPage := by omega
    obtain ⟨pages, final, requests, hrest, hlength, hpages⟩ :=
      ih (by omega) hleft' state' (log ++ [request])
    rw [List.append_assoc] at hrest
    exact ⟨page :: pages, final, request :: requests, .next hsearch hnext hrest,
      congrArg Nat.succ hlength, .cons hpage hpages⟩

end Sliced

/-! ## The whole walk -/

/-- What is known of the pages of a list of hits. -/
structure Covers (hits : List Value) (perPage : Nat) (pages : List Page) : Prop where
  /-- There are as many as the hits fill, and at least one. -/
  length_eq : pages.length = max 1 ⌈(hits.length / perPage : ℚ)⌉₊
  isOutOfBounds : ∀ page ∈ pages, page.isOutOfBounds = .ok false
  /-- The page before a page is the one that was seen before it. -/
  previousPage : ∀ i, (h : i + 1 < pages.length) →
    pages[i + 1].previousPage = some pages[i].currentPage
  /-- All pages but the last are full. -/
  size : ∀ i, (h : i + 1 < pages.length) → pages[i].size = .ok perPage
  /-- The records of all pages are those of the hits. -/
  records : (pages.mapM Page.records).map List.flatten = hits.mapM Page.recordOf

theorem covers_of_forall₂ {hits : List Value} {perPage : Nat} {pages : List Page}
    (hhits : hits.length ≤ 2 ^ 53) (hperPage : 0 < perPage)
    (hpages : List.Forall₂ (IsWindow hits perPage)
      (List.range' 1 (exactCount hits.length perPage)) pages) : Covers hits perPage pages := by
  have hlength : pages.length = exactCount hits.length perPage := by
    rw [← hpages.length_eq, List.length_range']
  have hpage : ∀ i, (h : i < pages.length) → IsWindow hits perPage (i + 1) pages[i] := by
    intro i h
    have hi := hpages.get (i := i) (by rw [List.length_range']; omega) h
    simpa [Nat.add_comm] using hi
  refine ⟨hlength, fun page hmem => ?_, fun i h => ?_, fun i h => ?_, ?_⟩
  · obtain ⟨i, h, rfl⟩ := List.mem_iff_getElem.mp hmem
    exact (hpage i h).isOutOfBounds hhits hperPage (by omega)
  · rw [(hpage (i + 1) h).previousPage (by omega), (hpage i (by omega)).currentPage_eq]
    rfl
  · exact (hpage i (by omega)).size hperPage (by omega) (by omega)
  · exact Page.flatten_records hpages (Page.le_mul_exactCount hits.length hperPage)

section Sliced

variable {server : Server ω} {client : Client α} {index url : String} {hits : List Value}
  {fields : List (String × Value)} {perPage : Nat}

/-- With a server that answers with slices of at most `2 ^ 53` hits, following the next page from
the first page on makes one request for each page that the hits fill, and covers the hits. -/
theorem exists_walk (hreaches : Reaches client index url) (hslices : Slices server url hits)
    (hbody : IsBody fields) (hhits : hits.length ≤ 2 ^ 53) (hperPage : 1 ≤ perPage)
    (hsize : (numeral perPage).length ≤ digitLimit) (state : ω) :
    ∃ pages final requests,
      Walk (recorded server) client index (.record fields) (.int perPage) 1 (state, [])
          pages (final, requests) ∧
        (∀ pages' final', Walk (recorded server) client index (.record fields) (.int perPage) 1
          (state, []) pages' final' → pages' = pages) ∧
        requests.length = max 1 ⌈(hits.length / perPage : ℚ)⌉₊ ∧
        Covers hits perPage pages := by
  have hone := Page.one_le_exactCount hits.length perPage
  obtain ⟨pages, final, requests, hwalk, hrequests, hpages⟩ :=
    exists_walk_from hreaches hslices hbody hhits hperPage hsize le_rfl
      (Nat.add_sub_cancel' hone) state []
  rw [Nat.sub_add_cancel hone] at hrequests hpages
  exact ⟨pages, final, requests, hwalk, fun pages' final' h => (h.unique hwalk).1, hrequests,
    covers_of_forall₂ hhits hperPage hpages⟩

end Sliced

/-! ## A walk -/

/-- The address that a client has when none is given. -/
def localAddress : Address :=
  ⟨"http".toList, [], "localhost".toList, some 9200, [], none, none⟩

/-- An open client for which nothing was given. -/
def localClient : Client Address :=
  { (make none none ⟨none, none⟩ : Client Address) with base := some localAddress }

theorem enter_localClient : (make none none ⟨none, none⟩).enter = .ok localClient := by
  decide +kernel

theorem reaches_localClient : Reaches localClient "users" "http://localhost:9200/users/_search" :=
  ⟨⟨localAddress, { localAddress with path := "/users/_search".toList }, rfl, by decide +kernel,
    by decide +kernel, by decide +kernel⟩⟩

/-- Hits with a title, three of them. -/
def titledHits : List Value :=
  [("1", "one"), ("2", "two"), ("3", "three")].map fun hit =>
    .record [("_id", .text hit.1), ("_source", .record [("title", .text hit.2)])]

theorem slices_titledHits (url : String) : Slices (slicing titledHits) url titledHits := by
  refine slices_slicing ?_ (by decide) url
  rw [titledHits, List.forall_mem_map]
  intro hit _
  refine isPlain_record (by simp) ?_
  rw [List.forall_mem_cons, List.forall_mem_singleton]
  exact ⟨isPlain_text _, isPlain_record (by simp) (List.forall_mem_singleton.mpr (isPlain_text _))⟩

theorem isBody_nil : IsBody [] :=
  ⟨List.nodup_nil, rfl, _, rfl⟩

/-- Three hits, two on a page. -/
theorem exists_walk_titledHits :
    Reaches localClient "users" "http://localhost:9200/users/_search" ∧
      Slices (slicing titledHits) "http://localhost:9200/users/_search" titledHits ∧
      IsBody [] ∧ titledHits.length ≤ 2 ^ 53 ∧ (numeral 2).length ≤ digitLimit ∧
      ∃ pages final requests,
        Walk (recorded (slicing titledHits)) localClient "users" (.record []) (.int 2) 1 ((), [])
            pages (final, requests) ∧
          requests.length = 2 ∧ Covers titledHits 2 pages := by
  have hsmall : titledHits.length ≤ 2 ^ 53 := by decide
  have hsize : (numeral 2).length ≤ digitLimit := by decide
  have hslices := slices_titledHits "http://localhost:9200/users/_search"
  obtain ⟨pages, final, requests, hwalk, _, hrequests, hcovers⟩ :=
    exists_walk reaches_localClient hslices isBody_nil hsmall (by decide : 1 ≤ 2) hsize ()
  have hpages : max 1 ⌈(titledHits.length / (2 : Nat) : ℚ)⌉₊ = 2 := by
    have hceil : ⌈(titledHits.length / (2 : Nat) : ℚ)⌉₊ = 2 := by
      rw [Nat.ceil_eq_iff (by decide)]
      norm_num [titledHits]
    rw [hceil]
    rfl
  exact ⟨reaches_localClient, hslices, isBody_nil, hsmall, hsize, pages, final, requests, hwalk,
    hrequests.trans hpages, hcovers⟩

/-! ## Sizes that are too long -/

theorem length_numeral_of_render {fields : List (String × Value)} {number : Int} {perPage : Nat}
    {text : String}
    (h : Json.render none (window (Value.textEntries fields) number perPage) = .ok text) :
    (numeral perPage).length ≤ digitLimit := by
  rw [window_textEntries] at h
  have hmem := Entries.mem_of_lookup_eq_some (lookup_windowFields fields number perPage).2
  obtain hsize : ∃ size, writtenNumeral perPage = .ok size :=
    Json.exists_render_record_iff.mp ⟨text, h⟩ _ hmem
  rwa [exists_writtenNumeral_iff, Int.natAbs_natCast] at hsize

/-- A search that finds a page has a size of page that is not too long. -/
theorem length_numeral_of_search {server : Server ω} {client : Client α} {index : String}
    {fields : List (String × Value)} {perPage : Nat} {number : Int} {page : Page} {state state' : ω}
    (h : client.search server index (.record fields) (.int number) (.int perPage) state =
      (.ok page, state')) : (numeral perPage).length ≤ digitLimit := by
  have hrequest := searchRequest_record fields number perPage
  cases hrender : Json.render none (window (Value.textEntries fields) (max number 1) perPage) with
  | ok text => exact length_numeral_of_render hrender
  | error e =>
    rw [hrender] at hrequest
    rw [search, hrequest] at h
    split at h <;> cases h

/-- A walk has a size of page that is not too long. -/
theorem Walk.length_numeral {server : Server ω} {client : Client α} {index : String}
    {fields : List (String × Value)} {perPage : Nat} {number : Int} {state final : ω}
    {pages : List Page}
    (h : Walk server client index (.record fields) (.int perPage) number state pages final) :
    (numeral perPage).length ≤ digitLimit := by
  cases h with
  | last hsearch _ => exact length_numeral_of_search hsearch
  | next hsearch _ _ => exact length_numeral_of_search hsearch

/-- The least size of page that is too long to be written, and too long for a walk. -/
theorem not_walk_titledHits :
    Reaches localClient "users" "http://localhost:9200/users/_search" ∧
      Slices (slicing titledHits) "http://localhost:9200/users/_search" titledHits ∧
      IsBody [] ∧ titledHits.length ≤ 2 ^ 53 ∧ 1 ≤ 10 ^ digitLimit ∧
      ∀ pages final,
        ¬ Walk (recorded (slicing titledHits)) localClient "users" (.record [])
          (.int (10 ^ digitLimit : Nat)) 1 ((), []) pages final := by
  refine ⟨reaches_localClient, slices_titledHits _, isBody_nil, by decide,
    Nat.pow_pos (by decide), fun pages final h => ?_⟩
  have hlength := h.length_numeral
  exact absurd (length_numeral_le_iff.mp hlength) (lt_irrefl _)

end SearchFilter.Client
