import SearchFilter.Proofs.Calendar.FixedWidth

/-!
# Texts in which a date occurs

A text that is compared with a field is searched for a date, and what is found decides what happens
to all of the text.  Text in which no date occurs passes as it is.  If a date occurs in a text that
is more than this date or moment, there are two ends, and the text is kept in neither.

* `IsDated` are the texts that are a date or a moment in full notation, apart from blanks.
* `exists_short_time` says what can be read although it is no such text: a moment whose time is in
  one of the other notations.
* `coerce_passes_iff` is the result: a text passes exactly if no date occurs in it, and what becomes
  of the others.
-/

namespace SearchFilter.Calendar

open SearchFilter.Text

/-- Apart from the blanks around it, the text is a date or a moment in full notation. -/
def IsDated (s : String) : Prop :=
  IsDateNotation (trim s.toList) ∨
    ∃ date time, trim s.toList = date ++ time ∧ IsDateNotation date ∧ IsTimeNotation time

theorem IsDated.length_trim {s : String} (h : IsDated s) :
    (trim s.toList).length = 10 ∨ (trim s.toList).length = 16 := by
  rcases h with hdate | ⟨date, time, htrim, hdate, htime⟩
  · exact .inl hdate.length_eq
  · right
    rw [htrim, List.length_append, hdate.length_eq, htime.length_eq]

theorem IsShortNumber.ne_nil {cs : List Char} (h : IsShortNumber cs) : cs ≠ [] := by
  rintro rfl
  simpa using h.length

/-- A date that occurs in a written date is all of it. -/
theorem WrittenDate.isDated {w : WrittenDate} {s : String} (hs : s.toList = w.chars)
    (hdate : looksLikeDate s = true) : IsDated s := by
  obtain ⟨date, ⟨front, behind, hwithin⟩, hnotation⟩ := looksLikeDate_iff.mp hdate
  have hdot : '.' ∉ w.after := not_mem_of_isBlank w.after_blank (by decide)
  have hparts : front ++ (date ++ behind) =
      w.before ++ (w.day ++ '.' :: (w.month ++ '.' :: (w.year ++ w.after))) := by
    rw [← List.append_assoc, hwithin, hs]
    simp [chars, dateChars]
  obtain ⟨hday, hmonth, _⟩ := full_of_isDateNotation w.before_blank w.day_short w.month_short
    w.year_length w.year_digits hdot hnotation hparts
  have hyear : w.year ≠ [] := List.ne_nil_of_length_pos (by rw [w.year_length]; omega)
  have hlast : w.dateChars = (w.day ++ '.' :: (w.month ++ ['.'])) ++ w.year := by
    simp [dateChars]
  have htrim : trim s.toList = w.dateChars := by
    rw [hs]
    apply trim_append w.before_blank w.after_blank
    · exact not_isBlank_head?_append w.day_short.ne_nil w.day_short.digits _
    · rw [hlast]
      exact not_isBlank_getLast?_append hyear w.year_digits _
  left
  rw [htrim]
  exact isDateNotation_join hday hmonth w.year_length (List.forall_mem_append.mpr
    ⟨w.day_short.digits, List.forall_mem_append.mpr ⟨w.month_short.digits, w.year_digits⟩⟩)

/-- A written moment in full notation is all of its text. -/
theorem WrittenMoment.isDated {w : WrittenMoment} {s : String} (hs : s.toList = w.chars)
    (hdate : w.HasFullDate) (htime : w.HasFullTime) : IsDated s := by
  have hinner : w.chars =
      w.before ++ ((w.dateChars ++ (w.gap ++ (w.hour ++ ':' :: w.minute))) ++ w.after) := by
    simp [chars, timeChars]
  have hfirst : w.dateChars ++ (w.gap ++ (w.hour ++ ':' :: w.minute)) =
      w.day ++ ('.' :: (w.month ++ '.' :: w.year) ++ (w.gap ++ (w.hour ++ ':' :: w.minute))) := by
    simp [dateChars]
  have hlast : w.dateChars ++ (w.gap ++ (w.hour ++ ':' :: w.minute)) =
      (w.dateChars ++ (w.gap ++ (w.hour ++ [':']))) ++ w.minute := by
    simp
  have htrim : trim s.toList = w.dateChars ++ (w.gap ++ (w.hour ++ ':' :: w.minute)) := by
    rw [hs, hinner]
    apply trim_append w.before_blank w.after_blank
    · rw [hfirst]
      exact not_isBlank_head?_append w.day_short.ne_nil w.day_short.digits _
    · rw [hlast]
      exact not_isBlank_getLast?_append w.minute_short.ne_nil w.minute_short.digits _
  exact .inr ⟨_, _, htrim, isDateNotation_dateChars hdate, isTimeNotation_of_hasFullTime htime⟩

/-- What is read although it is no date or moment in full notation has a date in it only if it is a
moment, and its time is the reason. -/
theorem exists_short_time {s : String} {t : DateTime} (hs : ¬ IsDated s)
    (hdate : looksLikeDate s = true) (hread : readMoment? s = some t) :
    ∃ w : WrittenMoment, s.toList = w.chars ∧ w.HasFullDate ∧ ¬ w.HasFullTime := by
  rcases written_of_readMoment? hread with ⟨w, hw⟩ | ⟨⟨w, hw⟩, _⟩
  · have hfull := (WrittenMoment.looksLikeDate_iff_of_written hw).mp hdate
    exact ⟨w, hw, hfull, fun htime => hs (WrittenMoment.isDated hw hfull htime)⟩
  · exact absurd (WrittenDate.isDated hw hdate) hs

end SearchFilter.Calendar

namespace SearchFilter

open SearchFilter.Calendar

variable {type : FieldType} {s : String}

/-- A text passes as it is exactly if no date occurs in it.  If one does, and the text is not just a
date or a moment, the text is refused, or it is a moment with its time in another notation and
becomes the date alone. -/
theorem coerce_passes_iff (htype : type ≠ .boolean) (hs : ¬ IsDated s) :
    ((Value.text s).coerce type .default = .ok (.text s) ↔
        ¬ ∃ date, date <:+: s.toList ∧ IsDateNotation date) ∧
      ((∃ date, date <:+: s.toList ∧ IsDateNotation date) →
        (∃ reason, (Value.text s).coerce type .default = .error (.unreadableDate s reason)) ∨
          ∃ (w : WrittenMoment) (t : DateTime), s.toList = w.chars ∧ w.HasFullDate ∧
            ¬ w.HasFullTime ∧ DateParser.default s = .ok (.datetime t) ∧
            (Value.text s).coerce type .default = .ok (.date t.date)) := by
  rw [← looksLikeDate_iff]
  by_cases hdate : looksLikeDate s = true
  · cases hread : readMoment? s with
    | none =>
      obtain ⟨reason, hrefused⟩ := coerce_of_unreadable htype hdate hread
      rw [hrefused]
      exact ⟨by simp [hdate], fun _ => .inl ⟨reason, rfl⟩⟩
    | some t =>
      obtain ⟨w, hw, hfull, htime⟩ := exists_short_time hs hdate hread
      have hmoment : ¬ looksLikeMoment s = true :=
        fun hmoment => htime ((WrittenMoment.looksLikeMoment_iff_of_written hw).mp hmoment).2
      have hdefault := default_of_readMoment? hread
      rw [coerce_of_readable htype hdefault, if_neg hmoment, if_pos hdate]
      exact ⟨by simp [hdate], fun _ => .inr ⟨w, t, hw, hfull, htime, hdefault, rfl⟩⟩
  · rw [coerce_of_not_looksLikeDate htype .default hdate]
    exact ⟨by simp [hdate], fun hoccurs => absurd hoccurs hdate⟩

theorem coerce_passes_version :
    ¬ IsDated "v1.12.2024 of 10.2.20245" ∧
      (Value.text "v1.12.2024 of 10.2.20245").coerce .text .default =
        .ok (.text "v1.12.2024 of 10.2.20245") := by
  have htype : FieldType.text ≠ .boolean := by decide
  have hs : ¬ IsDated "v1.12.2024 of 10.2.20245" := by
    intro hdated
    exact absurd hdated.length_trim (by decide +kernel)
  have hdate : ¬ ∃ date, date <:+: "v1.12.2024 of 10.2.20245".toList ∧ IsDateNotation date := by
    rw [← looksLikeDate_iff]
    decide +kernel
  exact ⟨hs, (coerce_passes_iff htype hs).1.mpr hdate⟩

/-- A date in the middle of a text makes the text unreadable. -/
theorem not_passes_of_date_within :
    ¬ IsDated "see 01.02.2024 for details" ∧
      (Value.text "see 01.02.2024 for details").coerce .text .default =
        .error (.unreadableDate "see 01.02.2024 for details"
          "no format matches 'see 01.02.2024 for details'") ∧
      (Value.text "see 01.02.2024 for details").coerce .text .default ≠
        .ok (.text "see 01.02.2024 for details") := by
  have hs : ¬ IsDated "see 01.02.2024 for details" := by
    intro hdated
    exact absurd hdated.length_trim (by decide +kernel)
  have hcoerce : (Value.text "see 01.02.2024 for details").coerce .text .default =
      .error (.unreadableDate "see 01.02.2024 for details"
        "no format matches 'see 01.02.2024 for details'") := by
    rw [← failure?_eq_some]
    decide +kernel
  refine ⟨hs, hcoerce, ?_⟩
  rw [hcoerce]
  simp

end SearchFilter
