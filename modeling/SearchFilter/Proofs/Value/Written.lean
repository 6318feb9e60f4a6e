import SearchFilter.Proofs.Json.Writable
import SearchFilter.Proofs.Number.Numerals
import SearchFilter.Proofs.Results
import SearchFilter.Value.Display

/-!
# Values that can be written

Writing a value fails in one way: an integer that would be shown is too long.  What it gives
otherwise is the text of the value.

* `written_eq_ok_iff` and `written_eq_error_iff` say so of one value, `mapM_written` of several.
* `hasText_int_iff` says which integers are short enough, and `haveLiterals_iff` that a container
  can be written if all of its items can.
* What has a JSON form can be written as well (`hasText_of_writable`).
-/

namespace SearchFilter.Value

open Number (digitLimit numeral writtenNumeral)

variable {value : Value} {items : List Value}

theorem hasText_int_iff {n : Int} :
    (int n).hasText = true ↔ (numeral n.natAbs).length ≤ digitLimit := by
  rw [← Number.exists_writtenNumeral_iff]
  show (writtenNumeral n).isOk = true ↔ _
  refine ⟨exists_eq_ok, ?_⟩
  rintro ⟨_, hn⟩
  rw [hn]
  rfl

theorem haveLiterals_iff : haveLiterals items = true ↔ ∀ item ∈ items, item.hasLiteral = true := by
  induction items with
  | nil => exact iff_of_true rfl (List.forall_mem_nil _)
  | cons item rest ih => rw [haveLiterals, Bool.and_eq_true, ih, List.forall_mem_cons]

theorem entriesHaveLiterals_iff {entries : List (Value × Value)} :
    entriesHaveLiterals entries = true ↔
      ∀ entry ∈ entries, entry.1.hasLiteral = true ∧ entry.2.hasLiteral = true := by
  induction entries with
  | nil => exact iff_of_true rfl (List.forall_mem_nil _)
  | cons entry rest ih =>
    rw [entriesHaveLiterals, Bool.and_eq_true, Bool.and_eq_true, ih, List.forall_mem_cons]

theorem hasText_of_hasLiteral (h : value.hasLiteral = true) : value.hasText = true := by
  cases value with
  | constant name carried => rfl
  | _ => exact h

theorem written_eq_ok_iff {s : String} :
    value.written = .ok s ↔ value.hasText = true ∧ value.display = s := by
  rw [written]
  cases value.hasText <;> simp

theorem written_eq_error_iff {e : Failure} :
    value.written = .error e ↔ value.hasText = false ∧ e = .integerTooLong := by
  rw [written]
  cases value.hasText <;> simp [eq_comm]

/-- Several values are written one by one, and the first that has no text is the failure. -/
theorem mapM_written (items : List Value) :
    items.mapM written =
      if ∀ item ∈ items, item.hasText = true then .ok (items.map display)
      else .error .integerTooLong := by
  induction items with
  | nil => rw [if_pos (List.forall_mem_nil _)]; rfl
  | cons item rest ih =>
    rw [List.mapM_cons, ih, written]
    cases hitem : item.hasText with
    | false =>
      have hnot : ¬ ∀ other ∈ item :: rest, other.hasText = true := by simp [hitem]
      rw [if_neg hnot]
      rfl
    | true =>
      by_cases hall : ∀ other ∈ rest, other.hasText = true
      · have hboth : ∀ other ∈ item :: rest, other.hasText = true :=
          List.forall_mem_cons.mpr ⟨hitem, hall⟩
        rw [if_pos hall, if_pos hboth]
        rfl
      · rw [if_neg hall, if_neg fun h => hall (List.forall_mem_cons.mp h).2]
        rfl

theorem mapM_written_texts (strings : List String) :
    (strings.map text).mapM written = .ok strings := by
  have hall : ∀ item ∈ strings.map text, item.hasText = true :=
    List.forall_mem_map.mpr fun _ _ => rfl
  rw [mapM_written, if_pos hall, List.map_map]
  exact congrArg Except.ok (List.map_id' strings)

/-! ## Values that have a JSON form -/

theorem hasLiteral_of_writable (h : Json.Writable value) : value.hasLiteral = true := by
  induction h with
  | int hshort => exact hasText_int_iff.mpr hshort
  | list _ ih => exact haveLiterals_iff.mpr ih
  | tuple _ ih => exact haveLiterals_iff.mpr ih
  | map hkeys _ ih =>
    refine entriesHaveLiterals_iff.mpr fun entry hentry => ⟨?_, ih entry hentry⟩
    obtain ⟨name, hname⟩ := hkeys entry hentry
    rw [hname]
    rfl
  | _ => rfl

theorem hasText_of_writable (h : Json.Writable value) : value.hasText = true :=
  hasText_of_hasLiteral (hasLiteral_of_writable h)

end SearchFilter.Value
