import Mathlib.Data.List.Forall2
import SearchFilter.Proofs.Page.Count

/-!
# Pages that are windows

The pages of a list of hits are its windows, each with the number of all hits.  `IsWindow` says so
of one page, and the lemmas below it say where the page leads.  The windows lie side by side, so the
records of all pages together are the records of the hits: `flatten_records`.
-/

namespace SearchFilter.Page

/-- The hits of a page, counting pages from one. -/
def window (hits : List Value) (perPage number : Nat) : List Value :=
  (hits.drop (perPage * (number - 1))).take perPage

/-- A page shows a window of a list of hits. -/
structure IsWindow (hits : List Value) (perPage number : Nat) (page : Page) : Prop where
  hits_eq : page.hits = .list (window hits perPage number)
  totalEntries_eq : page.totalEntries = hits.length
  perPage_eq : page.perPage = perPage
  currentPage_eq : page.currentPage = number

/-! ## Where a page leads -/

section Places

variable {hits : List Value} {perPage number : Nat} {page : Page}
  (hpage : IsWindow hits perPage number page)

include hpage

theorem IsWindow.totalPages (hhits : hits.length ≤ 2 ^ 53) (hperPage : 0 < perPage) :
    page.totalPages = .ok (exactCount hits.length perPage : Nat) := by
  rw [Page.totalPages, hpage.totalEntries_eq, hpage.perPage_eq, pageCount_eq hhits hperPage]

/-- After a page comes the next one, as long as there are pages. -/
theorem IsWindow.nextPage (hhits : hits.length ≤ 2 ^ 53) (hperPage : 0 < perPage) :
    page.nextPage = .ok
      (if number < exactCount hits.length perPage then some ((number + 1 : Nat) : Int)
        else none) := by
  rw [Page.nextPage, hpage.totalPages hhits hperPage, hpage.currentPage_eq]
  show Except.ok _ = _
  simp only [Nat.cast_lt, Nat.cast_succ]

theorem IsWindow.isOutOfBounds (hhits : hits.length ≤ 2 ^ 53) (hperPage : 0 < perPage)
    (hnumber : number ≤ exactCount hits.length perPage) : page.isOutOfBounds = .ok false := by
  rw [Page.isOutOfBounds, hpage.totalPages hhits hperPage, hpage.currentPage_eq]
  show Except.ok (decide _) = _
  rw [decide_eq_false (by omega)]

theorem IsWindow.previousPage (hnumber : 1 < number) :
    page.previousPage = some ((number - 1 : Nat) : Int) := by
  rw [Page.previousPage, hpage.currentPage_eq, if_pos (by exact_mod_cast hnumber),
    Nat.cast_sub hnumber.le, Nat.cast_one]

/-- Before the last page the pages are full. -/
theorem IsWindow.size (hperPage : 0 < perPage) (hnumber : 1 ≤ number)
    (hlast : number < exactCount hits.length perPage) : page.size = .ok perPage := by
  have hlength := mul_lt_of_lt_exactCount hperPage hnumber hlast
  obtain ⟨before, rfl⟩ := Nat.exists_eq_add_of_le' hnumber
  rw [Nat.mul_succ] at hlength
  have hfull : (window hits perPage (before + 1)).length = perPage := by
    rw [window, List.length_take, List.length_drop, Nat.add_sub_cancel]
    omega
  rw [Page.size, hitList, hpage.hits_eq]
  show Except.ok _ = _
  rw [hfull]

theorem IsWindow.records : page.records = (window hits perPage number).mapM recordOf := by
  rw [Page.records, hitList, hpage.hits_eq]
  rfl

end Places

/-! ## All pages together -/

/-- The windows of the first pages are what comes first. -/
theorem flatten_window (hits : List Value) (perPage count : Nat) :
    ((List.range' 1 count).map (window hits perPage)).flatten = hits.take (perPage * count) := by
  induction count with
  | zero => simp
  | succ count ih =>
    rw [List.range'_1_concat, List.map_append, List.flatten_append, ih, List.map_singleton,
      List.flatten_singleton, window, Nat.add_sub_cancel_left, Nat.mul_succ, List.take_add]

/-- Steps for the items of several lists are the steps for all items. -/
theorem flatten_mapM {α β : Type} (f : α → Except Failure β) (lists : List (List α)) :
    (lists.mapM (List.mapM f)).map List.flatten = lists.flatten.mapM f := by
  induction lists with
  | nil => rfl
  | cons items rest ih =>
    rw [List.flatten_cons, List.mapM_append, List.mapM_cons, ← ih]
    cases items.mapM f with
    | error e => rfl
    | ok results =>
      show Except.map _ (Except.bind _ _) = Except.bind (Except.map _ _) _
      cases rest.mapM (List.mapM f) <;> rfl

theorem mapM_records {hits : List Value} {perPage : Nat} {numbers : List Nat} {pages : List Page}
    (hpages : List.Forall₂ (IsWindow hits perPage) numbers pages) :
    pages.mapM Page.records =
      (numbers.map (window hits perPage)).mapM (List.mapM recordOf) := by
  induction hpages with
  | nil => rfl
  | cons hpage _ ih => rw [List.mapM_cons, List.map_cons, List.mapM_cons, hpage.records, ih]

/-- The records of all pages are the records of the hits, in order. -/
theorem flatten_records {hits : List Value} {perPage count : Nat} {pages : List Page}
    (hpages : List.Forall₂ (IsWindow hits perPage) (List.range' 1 count) pages)
    (hcount : hits.length ≤ perPage * count) :
    (pages.mapM Page.records).map List.flatten = hits.mapM recordOf := by
  rw [mapM_records hpages, flatten_mapM, flatten_window, List.take_of_length_le hcount]

end SearchFilter.Page
