import SearchFilter.Proofs.Compiler.Readings
import SearchFilter.Proofs.Compiler.Sendable
import SearchFilter.Proofs.QueryString.Decoded

/-!
# How the compiling of a query string ends

A caller that compiles a query string is prepared for two ends: a query that can be sent, and a date
that cannot be read.  There is a third one: a list of integer texts is recognised with all blanks
trimmed, and is then refused for a numeral that cannot be read after all.

`compile_ofQuery_iff` says for which query strings, with the settings of a program that sets
nothing, the third end does not come.
-/

namespace SearchFilter

/-- Compiling has ended in one of the two ways that a caller is prepared for: with a query that has
a JSON form in every layout, or with a date that cannot be read. -/
def EndsAsExpected (result : Except Failure CompiledQuery) : Prop :=
  (∃ compiled, result = .ok compiled ∧ ∀ layout, ∃ text, compiled.json layout = .ok text) ∨
    ∃ s reason, result = .error (.unreadableDate s reason)

namespace Compiler

variable {compiler : Compiler}

/-! ## Readings that fail -/

/-- The reading of a date that cannot be read, for a field that is not boolean. -/
def IsUnreadableDate (compiler : Compiler) : Reading → Prop
  | .integers _ => False
  | .typed key value =>
    compiler.fieldType compiler.declared key ≠ .boolean ∧ value.IsUnreadableDate

/-- The reading of integer texts of which one cannot be read. -/
def HasUnreadableNumeral : Reading → Prop
  | .integers value => value.HasUnreadableNumeral
  | .typed _ _ => False

/-- No unreadable numeral is read before the first unreadable date. -/
def DatesFirst (compiler : Compiler) (params : Params) : Prop :=
  ∀ before reading after, compiler.readings params = before ++ reading :: after →
    HasUnreadableNumeral reading → ∃ earlier ∈ before, compiler.IsUnreadableDate earlier

section DefaultParser

variable (hparser : compiler.settings.dateParser = .default)

include hparser

theorem readingFailure?_eq_none (reading : Reading) :
    compiler.readingFailure? reading = none ↔
      ¬ HasUnreadableNumeral reading ∧ ¬ compiler.IsUnreadableDate reading := by
  cases reading with
  | integers value =>
    rw [readingFailure?, failure?_eq_none, integers_isOk_iff]
    simp [HasUnreadableNumeral, IsUnreadableDate]
  | typed key value =>
    rw [readingFailure?, hparser, failure?_eq_none, coerce_default_isOk_iff]
    simp [HasUnreadableNumeral, IsUnreadableDate]

/-- The failure tells which of the two it was. -/
theorem readingFailure?_eq_some {reading : Reading} {e : Failure}
    (h : compiler.readingFailure? reading = some e) :
    (∃ s reason, e = .unreadableDate s reason) ↔ ¬ HasUnreadableNumeral reading := by
  cases reading with
  | integers value =>
    rw [readingFailure?, failure?_eq_some] at h
    have hunreadable : value.HasUnreadableNumeral := by
      by_contra hnot
      obtain ⟨read, hread⟩ := (integers_isOk_iff value).mpr hnot
      rw [h] at hread
      cases hread
    refine iff_of_false ?_ (not_not_intro hunreadable)
    rintro ⟨s, reason, rfl⟩
    rcases integers_error h with ⟨_, he⟩ | ⟨_, he⟩ <;> cases he
  | typed key value =>
    rw [readingFailure?, hparser, failure?_eq_some] at h
    exact iff_of_true (coerce_default_error h) id

/-- Without a date before it, an unreadable numeral or one before it is the first failure. -/
theorem exists_numeral_failure {before : List Reading} {reading : Reading} (after : List Reading)
    (hdates : ∀ earlier ∈ before, ¬ compiler.IsUnreadableDate earlier)
    (hunreadable : HasUnreadableNumeral reading) :
    ∃ e, (before ++ reading :: after).findSome? compiler.readingFailure? = some e ∧
      ∃ failing, HasUnreadableNumeral failing ∧ compiler.readingFailure? failing = some e := by
  rw [List.findSome?_append]
  cases hbefore : before.findSome? compiler.readingFailure? with
  | some e =>
    obtain ⟨failing, hmem, hfailure⟩ := List.exists_of_findSome?_eq_some hbefore
    refine ⟨e, rfl, failing, ?_, hfailure⟩
    by_contra hnot
    rw [(readingFailure?_eq_none hparser failing).mpr ⟨hnot, hdates failing hmem⟩] at hfailure
    cases hfailure
  | none =>
    cases hfailure : compiler.readingFailure? reading with
    | none => exact absurd hunreadable ((readingFailure?_eq_none hparser reading).mp hfailure).1
    | some e => exact ⟨e, by simp [hfailure], reading, hunreadable, hfailure⟩

/-- The first failure is an unreadable date exactly when dates come first. -/
theorem datesFirst_iff (params : Params) :
    compiler.DatesFirst params ↔
      ∀ e, (compiler.readings params).findSome? compiler.readingFailure? = some e →
        ∃ s reason, e = .unreadableDate s reason := by
  constructor
  · intro hdates e he
    obtain ⟨before, reading, after, hreadings, hreading, hbefore⟩ :=
      List.findSome?_eq_some_iff.mp he
    rw [readingFailure?_eq_some hparser hreading]
    intro hunreadable
    obtain ⟨earlier, hearlier, hdate⟩ := hdates before reading after hreadings hunreadable
    exact ((readingFailure?_eq_none hparser earlier).mp (hbefore earlier hearlier)).2 hdate
  · intro hfirst before reading after hreadings hunreadable
    by_contra hnone
    push Not at hnone
    obtain ⟨e, he, failing, hfailing, hfailure⟩ :=
      exists_numeral_failure hparser after hnone hunreadable
    rw [← hreadings] at he
    exact (readingFailure?_eq_some hparser hfailure).mp (hfirst e he) hfailing

end DefaultParser

/-! ## Query strings -/

/-- Compiling a query string ends as expected exactly when no list of integer texts with an
unreadable numeral is read before the first unreadable date. -/
theorem compile_ofQuery_iff (hsettings : compiler.settings = .default) {schema : Option Schema}
    (hschema : compiler.model.schema = .ok schema) (query : String) (source : LocaleSource) :
    EndsAsExpected (compiler.compile (Params.ofQuery query) source).1 ↔
      compiler.DatesFirst (Params.ofQuery query) := by
  have hparser : compiler.settings.dateParser = .default := by rw [hsettings]; rfl
  have hseparator : compiler.settings.orSeparator.isEmpty = false := by rw [hsettings]; rfl
  have hreadable : HasReadableSort (Params.ofQuery query) :=
    hasReadableSort_of_writable fun _ => writable_of_mem_ofQuery
  rw [datesFirst_iff hparser, ← failure?_compile hseparator hschema hreadable source]
  cases hcompile : (compiler.compile (Params.ofQuery query) source).1 with
  | error e => simp [EndsAsExpected, failure?]
  | ok compiled =>
    refine iff_of_true (.inl ⟨compiled, rfl, fun layout => ?_⟩) (by simp [failure?])
    exact exists_json_of_compile hparser hseparator hcompile
      (fun entry hentry => writable_of_mem_ofQuery hentry) layout

/-- An unreadable date that comes before an unreadable numeral is what is reported. -/
theorem endsAsExpected_of_date_before_numeral :
    EndsAsExpected
        (plain.compile (Params.ofQuery "day_eq=99.99.2024&id_in[]=%1C1") (.constant "en")).1 ∧
      plain.DatesFirst (Params.ofQuery "day_eq=99.99.2024&id_in[]=%1C1") := by
  have hfailure : failure?
      (plain.compile (Params.ofQuery "day_eq=99.99.2024&id_in[]=%1C1") (.constant "en")).1 =
        some (.unreadableDate "99.99.2024" "no format matches '99.99.2024'") := by
    decide +kernel
  have hends : EndsAsExpected
      (plain.compile (Params.ofQuery "day_eq=99.99.2024&id_in[]=%1C1") (.constant "en")).1 :=
    .inr ⟨_, _, failure?_eq_some.mp hfailure⟩
  exact ⟨hends, (compile_ofQuery_iff rfl rfl _ _).mp hends⟩

/-- An information separator before a digit is trimmed when the numeral is recognised, and refused
when it is read. -/
theorem not_endsAsExpected_of_separator_in_numeral :
    (plain.compile (Params.ofQuery "id_in[]=%1C1") (.constant "en")).1 =
        .error (.notAnInteger "\x1c1") ∧
      ¬ EndsAsExpected (plain.compile (Params.ofQuery "id_in[]=%1C1") (.constant "en")).1 := by
  have hfailure : failure?
      (plain.compile (Params.ofQuery "id_in[]=%1C1") (.constant "en")).1 =
        some (.notAnInteger "\x1c1") := by
    decide +kernel
  have hcompile := failure?_eq_some.mp hfailure
  refine ⟨hcompile, ?_⟩
  rintro (⟨compiled, hok, _⟩ | ⟨s, reason, hdate⟩)
  · rw [hcompile] at hok
    cases hok
  · rw [hcompile] at hdate
    cases hdate

end Compiler

end SearchFilter
