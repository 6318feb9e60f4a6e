import Mathlib.Data.List.Forall2
import Mathlib.Data.List.Infix
import SearchFilter.Calendar.DayMonthYear

/-!
# Dates inside texts

`looksLikeDate` and `looksLikeMoment` go through a text in search of a stretch of a given shape.
Here the same is said without the search: such a stretch occurs in the text (`occurs_iff`), and it
is a date or a moment in full notation (`looksLikeDate_iff`, `looksLikeMoment_iff`).
-/

namespace SearchFilter.Calendar

/-! ## Shapes -/

theorem hasShape_iff {shape : List (Char → Bool)} {cs : List Char} :
    hasShape shape cs = true ↔
      ∃ stretch, stretch <+: cs ∧ List.Forall₂ (fun ok c => ok c = true) shape stretch := by
  induction shape generalizing cs with
  | nil => simp [hasShape]
  | cons ok shape ih =>
    cases cs with
    | nil => simp [hasShape]
    | cons c cs =>
      rw [hasShape, Bool.and_eq_true, ih]
      constructor
      · rintro ⟨hc, stretch, hprefix, hstretch⟩
        exact ⟨c :: stretch, List.cons_prefix_cons.mpr ⟨rfl, hprefix⟩, .cons hc hstretch⟩
      · rintro ⟨stretch, hprefix, hstretch⟩
        obtain ⟨d, others, hd, hothers, rfl⟩ := List.forall₂_cons_left_iff.mp hstretch
        obtain ⟨rfl, hrest⟩ := List.cons_prefix_cons.mp hprefix
        exact ⟨hd, others, hrest, hothers⟩

theorem occurs_iff {shape : List (Char → Bool)} {cs : List Char} :
    occurs shape cs = true ↔
      ∃ stretch, stretch <:+: cs ∧ List.Forall₂ (fun ok c => ok c = true) shape stretch := by
  induction cs with
  | nil => simp [occurs, hasShape_iff]
  | cons c cs ih =>
    rw [occurs, Bool.or_eq_true, hasShape_iff, ih, ← exists_or]
    simp only [List.infix_cons_iff, or_and_right]

/-! ## Dates -/

/-- The notation `DD.MM.YYYY`, with decimal digits of any script. -/
def IsDateNotation (cs : List Char) : Prop :=
  ∃ d₁ d₂ m₁ m₂ y₁ y₂ y₃ y₄, cs = [d₁, d₂, '.', m₁, m₂, '.', y₁, y₂, y₃, y₄] ∧
    ∀ c ∈ [d₁, d₂, m₁, m₂, y₁, y₂, y₃, y₄], Text.isDigit c = true

/-- Rows of two, two and four digits with dots between them are a date. -/
theorem isDateNotation_join {day month year : List Char} (hday : day.length = 2)
    (hmonth : month.length = 2) (hyear : year.length = 4)
    (hdigits : ∀ c ∈ day ++ (month ++ year), Text.isDigit c = true) :
    IsDateNotation (day ++ '.' :: (month ++ '.' :: year)) := by
  obtain ⟨d₁, d₂, rfl⟩ := List.length_eq_two.mp hday
  obtain ⟨m₁, m₂, rfl⟩ := List.length_eq_two.mp hmonth
  obtain ⟨y₁, y₂, y₃, y₄, rfl⟩ := List.length_eq_four.mp hyear
  exact ⟨d₁, d₂, m₁, m₂, y₁, y₂, y₃, y₄, rfl, hdigits⟩

theorem IsDateNotation.length_eq {cs : List Char} (h : IsDateNotation cs) : cs.length = 10 := by
  obtain ⟨d₁, d₂, m₁, m₂, y₁, y₂, y₃, y₄, rfl, _⟩ := h
  rfl

/-- A date has digits and dots in it, and nothing else. -/
theorem IsDateNotation.not_mem {cs : List Char} (h : IsDateNotation cs) {c : Char}
    (hdigit : Text.isDigit c = false) (hdot : c ≠ '.') : c ∉ cs := by
  obtain ⟨d₁, d₂, m₁, m₂, y₁, y₂, y₃, y₄, rfl, hdigits⟩ := h
  intro hmem
  have hc : c ∈ [d₁, d₂, m₁, m₂, y₁, y₂, y₃, y₄] := by
    simp only [List.mem_cons] at hmem ⊢
    tauto
  rw [hdigits c hc] at hdigit
  cases hdigit

theorem forall₂_dateShape_iff {cs : List Char} :
    List.Forall₂ (fun ok c => ok c = true) dateShape cs ↔ IsDateNotation cs := by
  rw [dateShape, IsDateNotation]
  constructor
  · intro h
    simp only [List.forall₂_cons_left_iff, List.forall₂_nil_left_iff] at h
    obtain ⟨d₁, _, h₁, ⟨d₂, _, h₂, ⟨dot, _, hdot, ⟨m₁, _, h₃, ⟨m₂, _, h₄, ⟨dot', _, hdot',
      ⟨y₁, _, h₅, ⟨y₂, _, h₆, ⟨y₃, _, h₇, ⟨y₄, _, h₈, rfl, rfl⟩, rfl⟩, rfl⟩, rfl⟩, rfl⟩, rfl⟩,
      rfl⟩, rfl⟩, rfl⟩, rfl⟩ := h
    refine ⟨d₁, d₂, m₁, m₂, y₁, y₂, y₃, y₄, ?_, ?_⟩
    · rw [beq_iff_eq.mp hdot, beq_iff_eq.mp hdot']
    · simp [h₁, h₂, h₃, h₄, h₅, h₆, h₇, h₈]
  · rintro ⟨d₁, d₂, m₁, m₂, y₁, y₂, y₃, y₄, rfl, hdigits⟩
    simp_all

/-- A text looks like a date when a date stands somewhere in it. -/
theorem looksLikeDate_iff {s : String} :
    looksLikeDate s = true ↔ ∃ date, date <:+: s.toList ∧ IsDateNotation date := by
  rw [looksLikeDate, occurs_iff]
  exact exists_congr fun date => and_congr_right fun _ => forall₂_dateShape_iff

/-! ## Moments -/

/-- The notation of a time after a date: a space and `HH:MM`. -/
def IsTimeNotation (cs : List Char) : Prop :=
  ∃ h₁ h₂ n₁ n₂, cs = [' ', h₁, h₂, ':', n₁, n₂] ∧ ∀ c ∈ [h₁, h₂, n₁, n₂], Text.isDigit c = true

/-- Rows of two digits with a colon between them are a time. -/
theorem isTimeNotation_join {hour minute : List Char} (hhour : hour.length = 2)
    (hminute : minute.length = 2) (hdigits : ∀ c ∈ hour ++ minute, Text.isDigit c = true) :
    IsTimeNotation (' ' :: (hour ++ ':' :: minute)) := by
  obtain ⟨h₁, h₂, rfl⟩ := List.length_eq_two.mp hhour
  obtain ⟨n₁, n₂, rfl⟩ := List.length_eq_two.mp hminute
  exact ⟨h₁, h₂, n₁, n₂, rfl, hdigits⟩

theorem IsTimeNotation.length_eq {cs : List Char} (h : IsTimeNotation cs) : cs.length = 6 := by
  obtain ⟨h₁, h₂, n₁, n₂, rfl, _⟩ := h
  rfl

theorem forall₂_momentShape_iff {cs : List Char} :
    List.Forall₂ (fun ok c => ok c = true) momentShape cs ↔
      ∃ date time, cs = date ++ time ∧ IsDateNotation date ∧ IsTimeNotation time := by
  constructor
  · intro h
    have hdate := List.forall₂_take_append _ _ _ h.flip
    have htime := List.forall₂_drop_append _ _ _ h.flip
    refine ⟨_, _, (List.take_append_drop dateShape.length cs).symm,
      forall₂_dateShape_iff.mp hdate.flip, ?_⟩
    obtain ⟨space, _, hspace, ⟨h₁, _, hh₁, ⟨h₂, _, hh₂, ⟨colon, _, hcolon, ⟨n₁, _, hn₁,
      ⟨n₂, _, hn₂, rfl, rfl⟩, rfl⟩, rfl⟩, rfl⟩, rfl⟩, hcs⟩ := by
      simpa only [List.forall₂_cons_left_iff, List.forall₂_nil_left_iff] using htime.flip
    refine ⟨h₁, h₂, n₁, n₂, ?_, ?_⟩
    · rw [hcs, beq_iff_eq.mp hspace, beq_iff_eq.mp hcolon]
    · simp [hh₁, hh₂, hn₁, hn₂]
  · rintro ⟨date, time, rfl, hdate, h₁, h₂, n₁, n₂, rfl, hdigits⟩
    refine List.rel_append (forall₂_dateShape_iff.mpr hdate) ?_
    simp_all

/-- A text looks like a moment when a date and a time stand somewhere in it. -/
theorem looksLikeMoment_iff {s : String} :
    looksLikeMoment s = true ↔
      ∃ date time, date ++ time <:+: s.toList ∧ IsDateNotation date ∧ IsTimeNotation time := by
  rw [looksLikeMoment, occurs_iff]
  constructor
  · rintro ⟨stretch, hinfix, hshape⟩
    obtain ⟨date, time, rfl, hnotation⟩ := forall₂_momentShape_iff.mp hshape
    exact ⟨date, time, hinfix, hnotation⟩
  · rintro ⟨date, time, hinfix, hnotation⟩
    exact ⟨_, hinfix, forall₂_momentShape_iff.mpr ⟨date, time, rfl, hnotation⟩⟩

/-- The date of a moment is a date. -/
theorem looksLikeDate_of_looksLikeMoment {s : String} (h : looksLikeMoment s = true) :
    looksLikeDate s = true := by
  obtain ⟨date, time, hmoment, hdate, -⟩ := looksLikeMoment_iff.mp h
  exact looksLikeDate_iff.mpr ⟨date, (List.prefix_append date time).isInfix.trans hmoment, hdate⟩

end SearchFilter.Calendar
