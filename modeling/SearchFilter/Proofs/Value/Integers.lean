import Mathlib.Data.Nat.Digits.Defs
import SearchFilter.Proofs.Coercion

/-!
# Lists of integers

`Value.integers` reads all items of a list or none of them: `integers_allOrNothing`.

* `Number.Spells` says which number a text spells, through the values of its digits.  The texts that
  spell one are those that are recognised (`Number.isIntegerLike_iff`), and the number is the one
  that is read (`Number.spells_of_readInteger`).
* `Value.StandsFor` is the number of an item, and `Value.IsIntegerRow` are the values that are read
  (`Value.IsIntegerRow.exists_numbers`).  No other value is changed
  (`Value.integers_of_not_isIntegerRow`).
-/

namespace SearchFilter

open SearchFilter.Text

/-! ## Texts -/

namespace Number

/-- The number whose decimal digits these are, the greatest first. -/
def decimalValue (digits : List Char) : Nat :=
  Nat.ofDigits 10 (digits.reverse.map fun c => (digitValue? c).getD 0)

/-- A text spells a number: blanks, perhaps a minus sign, decimal digits of any script, and
blanks. -/
inductive Spells (text : String) : Int → Prop
  | positive {before digits after : List Char}
      (hparts : IntegerParts text.toList before [] digits after) :
      Spells text (decimalValue digits)
  | negative {before digits after : List Char}
      (hparts : IntegerParts text.toList before ['-'] digits after) :
      Spells text (-decimalValue digits)

variable {text : String}

theorem valueOf_eq_decimalValue (digits : List Char) : valueOf digits = decimalValue digits := by
  induction digits using List.reverseRecOn with
  | nil => rfl
  | append_singleton digits c ih =>
    have hvalue : valueOf (digits ++ [c]) = valueOf digits * 10 + (digitValue? c).getD 0 := by
      simp [valueOf]
    rw [hvalue, ih, decimalValue, decimalValue, List.reverse_append, List.reverse_singleton,
      List.singleton_append, List.map_cons, Nat.ofDigits_cons]
    omega

theorem isIntegerLike_iff : isIntegerLike text = true ↔ ∃ n, Spells text n := by
  constructor
  · intro h
    obtain ⟨before, sign, digits, after, hparts⟩ := exists_integerParts h
    rcases hparts.sign_eq with rfl | rfl
    · exact ⟨_, .positive hparts⟩
    · exact ⟨_, .negative hparts⟩
  · rintro ⟨n, hparts | hparts⟩
    · exact hparts.isIntegerLike
    · exact hparts.isIntegerLike

/-- The number that is read of an integer text is the one that it spells. -/
theorem spells_of_readInteger (hlike : isIntegerLike text = true) {n : Int}
    (h : readInteger text = .ok n) : Spells text n := by
  obtain ⟨before, sign, digits, after, hparts⟩ := exists_integerParts hlike
  have hn := eq_of_readInteger_eq_ok hparts h
  rw [valueOf_eq_decimalValue] at hn
  rcases hparts.sign_eq with rfl | rfl
  · rw [List.isEmpty_nil, if_pos rfl] at hn
    exact hn ▸ .positive hparts
  · rw [List.isEmpty_cons, if_neg Bool.false_ne_true] at hn
    exact hn ▸ .negative hparts

end Number

/-! ## Items -/

namespace Value

/-- The number that an item of a list stands for. -/
inductive StandsFor : Value → Int → Prop
  | int (n : Int) : StandsFor (.int n) n
  | text {item : Value} {s : String} {n : Int} (htext : item.text? = some s)
      (hspells : Number.Spells s n) : StandsFor item n

/-- A list or tuple that is not empty, and that has integers only, or texts only that spell
integers.  Truth values are no integers here. -/
structure IsIntegerRow (value : Value) (items : List Value) : Prop where
  sequence_eq : value.sequence? = some items
  ne_nil : items ≠ []
  alike : (∀ item ∈ items, ∃ n, item = .int n) ∨
    ∀ item ∈ items, ∃ s n, item.text? = some s ∧ Number.Spells s n

variable {value read : Value} {items : List Value}

theorem isInteger_iff {item : Value} : item.isInteger = true ↔ ∃ n, item = .int n := by
  cases item <;> simp [isInteger]

theorem isIntegerText_iff {item : Value} :
    item.isIntegerText = true ↔ ∃ s n, item.text? = some s ∧ Number.Spells s n := by
  rw [isIntegerText]
  cases item.text? with
  | none => simp
  | some s => simp [Number.isIntegerLike_iff]

/-- Integer texts are read as the numbers that they stand for. -/
theorem standsFor_of_mapM_toInteger (htexts : items.all isIntegerText = true) {numbers : List Int}
    (h : items.mapM toInteger = .ok numbers) : List.Forall₂ StandsFor items numbers := by
  have hboth := (List.forall₂_and_left ..).mpr ⟨List.all_eq_true.mp htexts, mapM_eq_ok h⟩
  refine hboth.imp ?_
  intro item n hitem
  obtain ⟨s, htext, hlike, hread⟩ := toInteger_of_isIntegerText hitem.1
  exact .text htext (Number.spells_of_readInteger hlike (hread.symm.trans hitem.2))

theorem exists_eq_map_int (h : ∀ item ∈ items, ∃ n, item = .int n) :
    ∃ numbers : List Int, items = numbers.map .int := by
  induction items with
  | nil => exact ⟨[], rfl⟩
  | cons item rest ih =>
    obtain ⟨n, rfl⟩ := h item List.mem_cons_self
    obtain ⟨numbers, rfl⟩ := ih fun other hother => h other (List.mem_cons_of_mem _ hother)
    exact ⟨n :: numbers, rfl⟩

theorem standsFor_map_int (numbers : List Int) :
    List.Forall₂ StandsFor (numbers.map .int) numbers := by
  rw [List.forall₂_map_left_iff, List.forall₂_same]
  exact fun n _ => .int n

/-! ## Lists -/

/-- Integers are left as they are. -/
theorem integers_map_int (numbers : List Int) :
    (Value.list (numbers.map .int)).integers = .ok (.list (numbers.map .int)) := by
  cases numbers with
  | nil => rfl
  | cons n rest =>
    have hall : ((n :: rest).map Value.int).all isInteger = true := by
      simp [isInteger]
    rw [integers_list (by simp), if_pos hall]

/-- A row of integers or of integer texts becomes the list of the numbers that it stands for. -/
theorem IsIntegerRow.exists_numbers (hrow : value.IsIntegerRow items)
    (h : value.integers = .ok read) :
    ∃ numbers : List Int,
      read = .list (numbers.map .int) ∧ List.Forall₂ StandsFor items numbers := by
  rw [integers_of_sequence hrow.sequence_eq hrow.ne_nil] at h
  split at h
  · next hintegers =>
    obtain ⟨numbers, rfl⟩ := exists_eq_map_int fun item hitem =>
      isInteger_iff.mp (List.all_eq_true.mp hintegers item hitem)
    exact ⟨numbers, (Except.ok.inj h).symm, standsFor_map_int numbers⟩
  · next hintegers =>
    have htexts : items.all isIntegerText = true := by
      rcases hrow.alike with hall | hall
      · refine absurd (List.all_eq_true.mpr fun item hitem => ?_) hintegers
        exact isInteger_iff.mpr (hall item hitem)
      · exact List.all_eq_true.mpr fun item hitem => isIntegerText_iff.mpr (hall item hitem)
    rw [if_pos htexts] at h
    obtain ⟨numbers, hnumbers, rfl⟩ := map_eq_ok h
    exact ⟨numbers, rfl, standsFor_of_mapM_toInteger htexts hnumbers⟩

/-- Any other value is left as it is. -/
theorem integers_of_not_isIntegerRow (hrow : ¬ ∃ items, value.IsIntegerRow items)
    (h : value.integers = .ok read) : read = value := by
  by_contra hchanged
  obtain ⟨items, hitems, hread⟩ := (integers_ok h).resolve_left hchanged
  have hne : items ≠ [] := by
    rintro rfl
    rw [integers, hitems] at h
    exact hchanged (Except.ok.inj h).symm
  refine hrow ⟨items, hitems, hne, ?_⟩
  rcases hread with ⟨hall, _⟩ | ⟨hall, _⟩
  · exact .inl fun item hitem => isInteger_iff.mp (List.all_eq_true.mp hall item hitem)
  · exact .inr fun item hitem => isIntegerText_iff.mp (List.all_eq_true.mp hall item hitem)

/-- All items of a list are read, or none is.  If reading does not fail, a list of integers only or
of texts only that spell integers gives the list of the numbers that its items stand for, one for
each, and any other value stays as it is.  Reading once more changes nothing. -/
theorem integers_allOrNothing (h : value.integers = .ok read) :
    ((∃ items, ∃ numbers : List Int, value.IsIntegerRow items ∧ read = .list (numbers.map .int) ∧
          numbers.length = items.length ∧ List.Forall₂ StandsFor items numbers) ∨
        (¬ ∃ items, value.IsIntegerRow items) ∧ read = value) ∧
      ((∃ numbers : List Int, numbers ≠ [] ∧ read = .list (numbers.map .int)) ↔
        ∃ items, value.IsIntegerRow items) ∧
      read.integers = .ok read := by
  by_cases hrow : ∃ items, value.IsIntegerRow items
  · obtain ⟨items, hitems⟩ := hrow
    obtain ⟨numbers, rfl, hnumbers⟩ := hitems.exists_numbers h
    have hlength := hnumbers.length_eq.symm
    refine ⟨.inl ⟨items, numbers, hitems, rfl, hlength, hnumbers⟩,
      iff_of_true ⟨numbers, ?_, rfl⟩ ⟨items, hitems⟩, integers_map_int numbers⟩
    rintro rfl
    exact hitems.ne_nil (List.eq_nil_of_length_eq_zero hlength.symm)
  · obtain rfl := integers_of_not_isIntegerRow hrow h
    refine ⟨.inr ⟨hrow, rfl⟩, iff_of_false ?_ hrow, h⟩
    rintro ⟨numbers, hne, rfl⟩
    refine hrow ⟨_, rfl, by simpa using hne, .inl fun item hitem => ?_⟩
    obtain ⟨n, _, rfl⟩ := List.mem_map.mp hitem
    exact ⟨n, rfl⟩

/-- Texts with Arabic-Indic digits between blanks, and with zeros in front of an ASCII digit. -/
def spelledNumbers : Value :=
  .tuple [.text " \u0663\u0664 ", .text "-007"]

/-- A tuple of texts becomes a list, with the numbers that the texts stand for. -/
theorem integers_allOrNothing_spelledNumbers :
    spelledNumbers.integers = .ok (.list [.int 34, .int (-7)]) ∧
      (∃ items, spelledNumbers.IsIntegerRow items ∧ List.Forall₂ StandsFor items [34, -7]) ∧
      (Value.list [.int 34, .int (-7)]).integers = .ok (.list [.int 34, .int (-7)]) := by
  have hread : spelledNumbers.integers = .ok (.list [.int 34, .int (-7)]) := rfl
  obtain ⟨hcases, hiff, hagain⟩ := integers_allOrNothing hread
  have hrow := hiff.mp ⟨[34, -7], by decide, rfl⟩
  obtain ⟨items, numbers, hitems, heq, _, hnumbers⟩ := hcases.resolve_right fun h => h.1 hrow
  have hsame : [34, -7] = numbers :=
    List.map_injective_iff.mpr (fun _ _ => Value.int.inj) (Value.list.inj heq)
  exact ⟨hread, ⟨items, hitems, hsame ▸ hnumbers⟩, hagain⟩

/-- One text that spells no integer, and all stay texts. -/
example : (list [.text "1", .text "+2"]).integers = .ok (.list [.text "1", .text "+2"]) := rfl

end Value

end SearchFilter
