import Mathlib.Data.List.Forall2
import SearchFilter.Failure

/-!
# Steps that can fail

What is known of two steps, of a step and a function, or of one step for each item of a list, when
the result is there or is a failure.

* Where all steps succeed, the results stand beside the items (`mapM_eq_ok`), and what holds of the
  ones can be said of the others (`forall_mem_iff`, `exists_mem_iff`).
* Where one fails, the first failure is that of the whole (`failure?_mapM`).
-/

namespace SearchFilter

variable {α β γ : Type}

theorem exists_eq_ok {x : Except Failure α} (h : x.isOk = true) : ∃ a, x = .ok a := by
  cases x with
  | error e => cases h
  | ok a => exact ⟨a, rfl⟩

theorem bind_eq_ok {x : Except Failure α} {f : α → Except Failure β} {b : β}
    (h : x.bind f = .ok b) : ∃ a, x = .ok a ∧ f a = .ok b := by
  cases x with
  | error e => cases h
  | ok a => exact ⟨a, rfl, h⟩

theorem bind_eq_error {x : Except Failure α} {f : α → Except Failure β} {e : Failure}
    (h : x.bind f = .error e) : x = .error e ∨ ∃ a, x = .ok a ∧ f a = .error e := by
  cases x with
  | error e' => exact .inl (congrArg Except.error (Except.error.inj h))
  | ok a => exact .inr ⟨a, rfl, h⟩

theorem map_eq_ok {x : Except Failure α} {f : α → β} {b : β} (h : x.map f = .ok b) :
    ∃ a, x = .ok a ∧ f a = b := by
  cases x with
  | error e => cases h
  | ok a => exact ⟨a, rfl, Except.ok.inj h⟩

theorem map_eq_error {x : Except Failure α} {f : α → β} {e : Failure} (h : x.map f = .error e) :
    x = .error e := by
  cases x with
  | error e' =>
    cases h
    rfl
  | ok a => cases h

/-- One step for each item gives one result for each item. -/
theorem mapM_eq_ok {f : α → Except Failure β} {items : List α} {results : List β}
    (h : items.mapM f = .ok results) :
    List.Forall₂ (fun item result => f item = .ok result) items results := by
  induction items generalizing results with
  | nil =>
    cases h
    exact .nil
  | cons item rest ih =>
    rw [List.mapM_cons] at h
    obtain ⟨first, hfirst, h⟩ := bind_eq_ok h
    obtain ⟨others, hothers, h⟩ := bind_eq_ok h
    cases h
    exact .cons hfirst (ih hothers)

/-- Where each step succeeds, so do all. -/
theorem mapM_of_forall₂ {f : α → Except Failure β} {items : List α} {results : List β}
    (h : List.Forall₂ (fun item result => f item = .ok result) items results) :
    items.mapM f = .ok results := by
  induction h with
  | nil => rfl
  | cons hfirst _ ih =>
    rw [List.mapM_cons, hfirst, ih]
    rfl

/-- Steps that give the same for each item give the same for all. -/
theorem mapM_congr {f g : α → Except Failure β} {items : List α}
    (h : ∀ item ∈ items, f item = g item) : items.mapM f = items.mapM g := by
  induction items with
  | nil => rfl
  | cons item rest ih =>
    rw [List.mapM_cons, List.mapM_cons, h item List.mem_cons_self,
      ih fun later hlater => h later (List.mem_cons_of_mem _ hlater)]

/-- A function of each result can be taken in each step. -/
theorem map_mapM (f : α → Except Failure β) (g : β → γ) (items : List α) :
    (items.mapM f).map (List.map g) = items.mapM fun item => (f item).map g := by
  induction items with
  | nil => rfl
  | cons item rest ih =>
    rw [List.mapM_cons, List.mapM_cons, ← ih]
    cases f item with
    | error e => rfl
    | ok first =>
      show Except.map _ (Except.bind _ _) = _
      cases rest.mapM f <;> rfl

/-! ## Items and results side by side -/

section Related

variable {R : α → β → Prop} {items : List α} {results : List β} (h : List.Forall₂ R items results)

include h

/-- Each of the results belongs to an item. -/
theorem exists_of_mem_right {result : β} (hresult : result ∈ results) :
    ∃ item ∈ items, R item result := by
  induction h with
  | nil => exact absurd hresult List.not_mem_nil
  | @cons item first rest others hfirst hrest ih =>
    rcases List.mem_cons.mp hresult with rfl | hothers
    · exact ⟨item, List.mem_cons_self, hfirst⟩
    · obtain ⟨other, hother, hrelated⟩ := ih hothers
      exact ⟨other, List.mem_cons_of_mem _ hother, hrelated⟩

variable {P : α → Prop} {Q : β → Prop} (hiff : ∀ item ∈ items, ∀ result, R item result →
  (P item ↔ Q result))

include hiff

theorem forall_mem_iff : (∀ item ∈ items, P item) ↔ ∀ result ∈ results, Q result := by
  induction h with
  | nil => simp
  | cons hfirst hrest ih =>
    rw [List.forall_mem_cons, List.forall_mem_cons, hiff _ List.mem_cons_self _ hfirst,
      ih fun item hitem => hiff item (List.mem_cons_of_mem _ hitem)]

theorem exists_mem_iff : (∃ item ∈ items, P item) ↔ ∃ result ∈ results, Q result := by
  induction h with
  | nil => simp
  | cons hfirst hrest ih =>
    rw [List.exists_mem_cons_iff, List.exists_mem_cons_iff, hiff _ List.mem_cons_self _ hfirst,
      ih fun item hitem => hiff item (List.mem_cons_of_mem _ hitem)]

end Related

/-! ## The failure -/

/-- The failure of a step, if there is one. -/
def failure? : Except Failure α → Option Failure
  | .error e => some e
  | .ok _ => none

theorem failure?_eq_some {x : Except Failure α} {e : Failure} :
    failure? x = some e ↔ x = .error e := by
  cases x <;> simp [failure?]

theorem failure?_eq_none {x : Except Failure α} : failure? x = none ↔ ∃ a, x = .ok a := by
  cases x <;> simp [failure?]

theorem failure?_map (x : Except Failure α) (f : α → β) : failure? (x.map f) = failure? x := by
  cases x <;> rfl

/-- Of one step for each item, the first failure is that of the whole. -/
theorem failure?_mapM (f : α → Except Failure β) (items : List α) :
    failure? (items.mapM f) = items.findSome? fun item => failure? (f item) := by
  induction items with
  | nil => rfl
  | cons item rest ih =>
    rw [List.mapM_cons, List.findSome?_cons, ← ih]
    cases f item with
    | error e => rfl
    | ok first =>
      show failure? (Except.bind _ _) = _
      cases rest.mapM f <;> rfl

/-- The steps fail as the first one that fails. -/
theorem mapM_of_first_failure {f : α → Except Failure β} {before after : List α} {item : α}
    {e : Failure} (hbefore : ∀ earlier ∈ before, ∃ result, f earlier = .ok result)
    (hitem : f item = .error e) : (before ++ item :: after).mapM f = .error e := by
  rw [← failure?_eq_some, failure?_mapM, List.findSome?_eq_some_iff]
  exact ⟨before, item, after, rfl, failure?_eq_some.mpr hitem,
    fun earlier hearlier => failure?_eq_none.mpr (hbefore earlier hearlier)⟩

end SearchFilter
