import SearchFilter.Json.Printer
import SearchFilter.Proofs.Number.Shortest

/-!
# Values that have a JSON form

Not every value can be written as JSON.  `Writable` values can: they are built from scalars, lists,
tuples and maps with text keys, their integers are not too long, and their doubles belong to the
format.  `exists_render` is the result; the layout does not matter.
-/

namespace SearchFilter.Json

open SearchFilter.Number

/-- Values that have a JSON form. -/
inductive Writable : Value → Prop
  | null : Writable .null
  | bool (b : Bool) : Writable (.bool b)
  | int {n : Int} (hshort : (numeral n.natAbs).length ≤ digitLimit) : Writable (.int n)
  | float {x : Binary64} (hformat : x.inFormat = true) : Writable (.float x)
  | text (s : String) : Writable (.text s)
  | date (d : Calendar.Date) : Writable (.date d)
  | datetime (t : Calendar.DateTime) : Writable (.datetime t)
  | fieldType (kind : FieldType) : Writable (.fieldType kind)
  | list {items : List Value} (hitems : ∀ item ∈ items, Writable item) : Writable (.list items)
  | tuple {items : List Value} (hitems : ∀ item ∈ items, Writable item) : Writable (.tuple items)
  | map {entries : List (Value × Value)}
      (hkeys : ∀ entry ∈ entries, ∃ name, entry.1 = .text name)
      (hvalues : ∀ entry ∈ entries, Writable entry.2) : Writable (.map entries)

variable {layout : Layout} {level : Nat}

/-! ## Containers -/

theorem exists_renderItems {items : List Value}
    (h : ∀ item ∈ items, ∃ text, renderAt layout level item = .ok text) :
    ∃ texts, renderItems layout level items = .ok texts := by
  induction items with
  | nil => exact ⟨[], rfl⟩
  | cons item rest ih =>
    obtain ⟨text, htext⟩ := h item List.mem_cons_self
    obtain ⟨texts, htexts⟩ := ih fun other hother => h other (List.mem_cons_of_mem _ hother)
    rw [renderItems, htext, htexts]
    exact ⟨_, rfl⟩

theorem exists_renderEntries {entries : List (Value × Value)}
    (hkeys : ∀ entry ∈ entries, ∃ name, entry.1 = .text name)
    (hvalues : ∀ entry ∈ entries, ∃ text, renderAt layout level entry.2 = .ok text) :
    ∃ texts, renderEntries layout level entries = .ok texts := by
  induction entries with
  | nil => exact ⟨[], rfl⟩
  | cons entry rest ih =>
    obtain ⟨key, value⟩ := entry
    obtain ⟨name, rfl⟩ := hkeys (key, value) List.mem_cons_self
    obtain ⟨text, htext⟩ := hvalues (.text name, value) List.mem_cons_self
    obtain ⟨texts, htexts⟩ := ih (fun other hother => hkeys other (List.mem_cons_of_mem _ hother))
      fun other hother => hvalues other (List.mem_cons_of_mem _ hother)
    rw [renderEntries, htext, htexts]
    exact ⟨_, rfl⟩

/-! ## All values -/

theorem Writable.exists_renderAt {value : Value} (h : Writable value) (level : Nat) :
    ∃ text, renderAt layout level value = .ok text := by
  induction h generalizing level with
  | int hshort => exact ⟨_, by rw [renderAt, writtenNumeral, if_pos hshort]⟩
  | list _ ih =>
    obtain ⟨texts, htexts⟩ := exists_renderItems fun item hitem => ih item hitem (level + 1)
    rw [renderAt, htexts]
    exact ⟨_, rfl⟩
  | tuple _ ih =>
    obtain ⟨texts, htexts⟩ := exists_renderItems fun item hitem => ih item hitem (level + 1)
    rw [renderAt, htexts]
    exact ⟨_, rfl⟩
  | map hkeys _ ih =>
    obtain ⟨texts, htexts⟩ :=
      exists_renderEntries hkeys fun entry hentry => ih entry hentry (level + 1)
    rw [renderAt, htexts]
    exact ⟨_, rfl⟩
  | _ => exact ⟨_, rfl⟩

/-- A writable value has a JSON form in every layout. -/
theorem Writable.exists_render {value : Value} (h : Writable value) (layout : Layout) :
    ∃ text, render layout value = .ok text :=
  h.exists_renderAt 0

/-! ## Records -/

theorem writable_record {fields : List (String × Value)}
    (h : ∀ field ∈ fields, Writable field.2) : Writable (.record fields) := by
  refine .map ?_ ?_
  · rw [List.forall_mem_map]
    exact fun field _ => ⟨field.1, rfl⟩
  · rw [List.forall_mem_map]
    exact h

end SearchFilter.Json
