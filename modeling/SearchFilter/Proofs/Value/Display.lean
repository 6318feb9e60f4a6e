import SearchFilter.Proofs.Number.Digits
import SearchFilter.Proofs.Text.Blank
import SearchFilter.Value.Display

/-!
# The words of a value

A value is searched for by the words of its text.  There are such words for every value except for
texts of blanks, because every other form has a digit, a letter or a bracket in it.

* A numeral is one word (`words_signedNumeral`), and every number has words.
* `words_literal_ne_nil` says so of the form that a value has inside of a container, and
  `words_display_eq_nil_iff` of its text.
* `words_display_ne_nil` is what a filter needs: a value that is not blank has words.
-/

namespace SearchFilter

open Text (isBlank words words_ne_nil_of_mem)

/-! ## Numbers -/

/-- A numeral is one word. -/
theorem words_signedNumeral (n : Int) :
    words (Number.signedNumeral n) = [Number.signedNumeral n] := by
  have hnumeral : ∀ n : Nat, ∀ c ∈ (Number.numeral n).toList, isBlank c = false := by
    intro n c hc
    rw [Number.numeral, String.toList_ofList] at hc
    refine Number.isBlank_of_isDigit ?_
    rw [Text.isDigit, Number.digitValue?_of_isAsciiDigit (Number.isAsciiDigit_of_mem_toDigits hc)]
    rfl
  cases n with
  | ofNat n =>
    have hne : (Number.numeral n).toList ≠ [] := by
      rw [Number.numeral, String.toList_ofList]
      exact Nat.toDigits_ne_nil
    exact Text.words_of_forall_not_blank hne (hnumeral n)
  | negSucc n =>
    have hchars : (Number.signedNumeral (.negSucc n)).toList =
        '-' :: (Number.numeral (n + 1)).toList := by
      simp [Number.signedNumeral]
    refine Text.words_of_forall_not_blank (by rw [hchars]; exact List.cons_ne_nil _ _) ?_
    rw [hchars, List.forall_mem_cons]
    exact ⟨by decide, hnumeral (n + 1)⟩

theorem words_signedNumeral_ne_nil (n : Int) : words (Number.signedNumeral n) ≠ [] := by
  rw [words_signedNumeral]
  exact List.cons_ne_nil _ _

/-- A row of digits is written with a decimal point or with an exponent. -/
theorem exists_mark_mem_layout (row : Number.Digits) :
    '.' ∈ Number.layout row ∨ 'e' ∈ Number.layout row := by
  rw [Number.layout]
  split
  · left
    rw [Number.positional]
    split_ifs <;> simp
  · right
    rw [Number.scientific]
    simp

theorem words_double_ne_nil (x : Number.Binary64) : words x.text ≠ [] := by
  cases x with
  | nan => exact words_ne_nil_of_mem (c := 'n') (by decide) (by decide)
  | infinite negative =>
    refine words_ne_nil_of_mem (c := 'n') ?_ (by decide)
    simp [Number.Binary64.text]
  | finite negative mantissa exponent =>
    rw [Number.Binary64.text]
    split
    · refine words_ne_nil_of_mem (c := '.') ?_ (by decide)
      simp
    · rcases exists_mark_mem_layout (Number.shortestDigits mantissa exponent) with hmark | hmark
      · exact words_ne_nil_of_mem (c := '.') (by simp [hmark]) (by decide)
      · exact words_ne_nil_of_mem (c := 'e') (by simp [hmark]) (by decide)

/-! ## Any value -/

theorem words_quoted_ne_nil (s : String) : words (Text.quoted s) ≠ [] := by
  have hquote : isBlank (Text.quoteFor s.toList) = false := by
    rw [Text.quoteFor]
    split <;> decide
  refine words_ne_nil_of_mem ?_ hquote
  simp [Text.quoted]

/-- A printed form has words if its closing mark has. -/
theorem words_append_ne_nil {s t : String} (h : t.toList.any (fun c => !isBlank c) = true) :
    words (s ++ t) ≠ [] := by
  obtain ⟨c, hc, hkept⟩ := List.any_eq_true.mp h
  refine words_ne_nil_of_mem (c := c) ?_ (by simpa using hkept)
  rw [String.toList_append]
  exact List.mem_append_right _ hc

theorem words_literal_ne_nil : ∀ value : Value, words value.literal ≠ []
  | .null => words_ne_nil_of_mem (c := 'N') (by decide) (by decide)
  | .bool b => by cases b <;> exact words_ne_nil_of_mem (c := 'e') (by decide) (by decide)
  | .int n => words_signedNumeral_ne_nil n
  | .float x => words_double_ne_nil x
  | .text s => words_quoted_ne_nil s
  | .list _ => words_append_ne_nil (t := "]") (by decide)
  | .tuple items => by
    unfold Value.literal Value.enclosedTuple
    split
    · exact words_append_ne_nil (t := ",)") (by decide)
    · exact words_append_ne_nil (t := ")") (by decide)
  | .set items => by
    unfold Value.literal Value.enclosedSet
    split
    · exact words_ne_nil_of_mem (c := 's') (by decide) (by decide)
    · exact words_append_ne_nil (t := "\x7d") (by decide)
  | .map _ => words_append_ne_nil (t := "\x7d") (by decide)
  | .date _ => words_append_ne_nil (t := ")") (by decide)
  | .datetime _ => words_append_ne_nil (t := ")") (by decide)
  | .fieldType _ => words_append_ne_nil (t := "'>") (by decide)
  | .constant _ _ => words_append_ne_nil (t := ">") (by decide)
  | .type _ => words_append_ne_nil (t := "'>") (by decide)

/-- The name of a constant has a dot in it. -/
theorem words_constantName_ne_nil (name : ConstantName) : words name.text ≠ [] :=
  words_ne_nil_of_mem (c := '.') (by simp [ConstantName.text]) (by decide)

/-- Only texts of blanks are shown without words. -/
theorem words_display_eq_nil_iff {value : Value} :
    words value.display = [] ↔ ∃ s, value = .text s ∧ words s = [] := by
  constructor
  · intro hnone
    cases value with
    | text s => exact ⟨s, rfl, hnone⟩
    | fieldType kind => cases kind <;> exact absurd hnone (by decide)
    | date d =>
      have hhyphen : '-' ∈ (Value.date d).display.toList := by
        simp [Value.display, Calendar.Date.isoText]
      exact absurd hnone (words_ne_nil_of_mem hhyphen (by decide))
    | datetime t =>
      have hhyphen : '-' ∈ (Value.datetime t).display.toList := by
        simp [Value.display, Calendar.DateTime.display, Calendar.Date.isoText]
      exact absurd hnone (words_ne_nil_of_mem hhyphen (by decide))
    | constant name carried => exact absurd hnone (words_constantName_ne_nil name)
    | null | bool | int | float | list | tuple | set | map | type =>
      exact absurd hnone (words_literal_ne_nil _)
  · rintro ⟨s, rfl, hnone⟩
    exact hnone

/-- A text is blank if it has no words. -/
theorem isBlank_text_eq_false_iff {s : String} :
    (Value.text s).isBlank = false ↔ words s ≠ [] := by
  rw [Ne, Text.words_eq_nil_iff, ← Text.trim_isEmpty_iff, Bool.not_eq_true]
  rfl

/-- A value that is not blank has words. -/
theorem words_display_ne_nil {value : Value} (h : value.isBlank = false) :
    words value.display ≠ [] := by
  intro hnone
  obtain ⟨s, rfl, hwords⟩ := words_display_eq_nil_iff.mp hnone
  exact isBlank_text_eq_false_iff.mp h hwords

/-! ## The text searched for -/

theorem searchText_texts (strings : List String) :
    (Value.list (strings.map .text)).searchText = " ".intercalate strings := by
  show " ".intercalate ((strings.map Value.text).map Value.display) = _
  rw [List.map_map]
  exact congrArg _ (List.map_id strings)

theorem searchText_numbers (numbers : List Int) :
    (Value.list (numbers.map .int)).searchText =
      " ".intercalate (numbers.map Number.signedNumeral) := by
  show " ".intercalate ((numbers.map Value.int).map Value.display) = _
  rw [List.map_map]
  rfl

end SearchFilter
