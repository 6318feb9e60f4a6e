import SearchFilter.Coercion
import SearchFilter.Proofs.Calendar.Notation
import SearchFilter.Proofs.Number.Numerals
import SearchFilter.Proofs.Text.Split

/-!
# Moments with a time of day

The date parser reads a moment in more notations than the search for one inside a text knows.  Hour
and minute may have one digit, and any blanks may stand in front of them; the search looks for two
digits each and a single space.  A moment in one of the other notations is found as a date only, and
its time is dropped.

* `WrittenMoment` is a moment as it stands in a text, cut into its parts, and `WrittenDate` a date
  without a time.  `written_of_readMoment?` says that every text which the parser reads is one of
  them, and `exists_writtenMoment` that it is a moment if it is read with a time.
* `looksLikeDate_iff_of_written` and `looksLikeMoment_iff_of_written` say when the search finds it.
* `coerce_keepsTime_iff` puts these together: the times that are kept.
-/

namespace SearchFilter.Calendar

open SearchFilter.Text SearchFilter.Number

/-! ## The parts of a moment -/

/-- One or two decimal digits of any script. -/
structure IsShortNumber (cs : List Char) : Prop where
  length : cs.length = 1 ∨ cs.length = 2
  digits : ∀ c ∈ cs, isDigit c = true

/-- A date and a time as they stand in a text, with what stands before, between and after them. -/
structure WrittenMoment where
  before : List Char
  day : List Char
  month : List Char
  year : List Char
  gap : List Char
  hour : List Char
  minute : List Char
  after : List Char
  before_blank : ∀ c ∈ before, isBlank c = true
  day_short : IsShortNumber day
  month_short : IsShortNumber month
  year_length : year.length = 4
  year_digits : ∀ c ∈ year, isDigit c = true
  gap_ne_nil : gap ≠ []
  gap_blank : ∀ c ∈ gap, isBlank c = true
  hour_short : IsShortNumber hour
  minute_short : IsShortNumber minute
  after_blank : ∀ c ∈ after, isBlank c = true

namespace WrittenMoment

/-- The date as it stands in the text. -/
def dateChars (w : WrittenMoment) : List Char :=
  w.day ++ '.' :: (w.month ++ '.' :: w.year)

/-- What stands after the date. -/
def timeChars (w : WrittenMoment) : List Char :=
  w.gap ++ (w.hour ++ ':' :: (w.minute ++ w.after))

/-- The whole text. -/
def chars (w : WrittenMoment) : List Char :=
  w.before ++ (w.dateChars ++ w.timeChars)

/-- Day and month have two digits. -/
def HasFullDate (w : WrittenMoment) : Prop :=
  w.day.length = 2 ∧ w.month.length = 2

/-- A single space stands before the time, and hour and minute have two digits. -/
def HasFullTime (w : WrittenMoment) : Prop :=
  w.gap = [' '] ∧ w.hour.length = 2 ∧ w.minute.length = 2

end WrittenMoment

/-- A date as it stands in a text, with what stands before and after it. -/
structure WrittenDate where
  before : List Char
  day : List Char
  month : List Char
  year : List Char
  after : List Char
  before_blank : ∀ c ∈ before, isBlank c = true
  day_short : IsShortNumber day
  month_short : IsShortNumber month
  year_length : year.length = 4
  year_digits : ∀ c ∈ year, isDigit c = true
  after_blank : ∀ c ∈ after, isBlank c = true

namespace WrittenDate

/-- The date as it stands in the text. -/
def dateChars (w : WrittenDate) : List Char :=
  w.day ++ '.' :: (w.month ++ '.' :: w.year)

/-- The whole text. -/
def chars (w : WrittenDate) : List Char :=
  w.before ++ (w.dateChars ++ w.after)

end WrittenDate

/-! ## Digits, blanks and marks -/

theorem not_mem_of_isDigit {cs : List Char} (h : ∀ c ∈ cs, isDigit c = true) {mark : Char}
    (hmark : isDigit mark = false) : mark ∉ cs := by
  intro hmem
  rw [h mark hmem] at hmark
  cases hmark

theorem not_mem_of_isBlank {cs : List Char} (h : ∀ c ∈ cs, isBlank c = true) {mark : Char}
    (hmark : isBlank mark = false) : mark ∉ cs := by
  intro hmem
  rw [h mark hmem] at hmark
  cases hmark

/-- No blank is a digit. -/
theorem not_isBlank_and_isDigit {c : Char} (hblank : isBlank c = true) (hdigit : isDigit c = true) :
    False := by
  rw [isBlank_of_isDigit hdigit] at hblank
  cases hblank

theorem not_isBlank_head?_append {digits : List Char} (hne : digits ≠ [])
    (hdigits : ∀ c ∈ digits, isDigit c = true) (rest : List Char) :
    ∀ c ∈ (digits ++ rest).head?, isBlank c = false := by
  intro c hc
  rw [List.head?_append_of_ne_nil _ hne] at hc
  exact isBlank_of_isDigit (hdigits c (List.mem_of_head? hc))

theorem not_isBlank_getLast?_append {digits : List Char} (hne : digits ≠ [])
    (hdigits : ∀ c ∈ digits, isDigit c = true) (front : List Char) :
    ∀ c ∈ (front ++ digits).getLast?, isBlank c = false := by
  intro c hc
  rw [List.getLast?_append_of_ne_nil _ hne] at hc
  exact isBlank_of_isDigit (hdigits c (List.mem_of_getLast? hc))

/-- Two digits after which something stands are the whole of a short number after blanks. -/
theorem length_of_two_digits {before number front : List Char} {d₁ d₂ : Char}
    (hbefore : ∀ c ∈ before, isBlank c = true) (hnumber : IsShortNumber number)
    (hdigit : isDigit d₁ = true) (h : front ++ [d₁, d₂] = before ++ number) :
    number.length = 2 := by
  rcases hnumber.length with hone | htwo
  · obtain ⟨d, rfl⟩ := List.length_eq_one_iff.mp hone
    have hsplit : (front ++ [d₁]) ++ [d₂] = before ++ [d] := by rwa [List.append_assoc]
    have hblanks : front ++ [d₁] = before := (List.append_inj' hsplit rfl).1
    exact (not_isBlank_and_isDigit (hbefore d₁ (by simp [← hblanks])) hdigit).elim
  · exact htwo

/-- Where the only dots are those of a date, a date in full notation can only be this one. -/
theorem full_of_isDateNotation {before day month year rest front date behind : List Char}
    (hbefore : ∀ c ∈ before, isBlank c = true) (hday : IsShortNumber day)
    (hmonth : IsShortNumber month) (hlength : year.length = 4)
    (hyear : ∀ c ∈ year, isDigit c = true) (hrest : '.' ∉ rest) (hdate : IsDateNotation date)
    (h : front ++ (date ++ behind) =
      before ++ (day ++ '.' :: (month ++ '.' :: (year ++ rest)))) :
    day.length = 2 ∧ month.length = 2 ∧ behind = rest := by
  obtain ⟨d₁, d₂, m₁, m₂, y₁, y₂, y₃, y₄, rfl, hdigits⟩ := hdate
  have hbefore' : '.' ∉ before := not_mem_of_isBlank hbefore (by decide)
  have hday' : '.' ∉ day := not_mem_of_isDigit hday.digits (by decide)
  have hmonth' : '.' ∉ month := not_mem_of_isDigit hmonth.digits (by decide)
  have hyear' : '.' ∉ year := not_mem_of_isDigit hyear (by decide)
  have hcut : (front ++ [d₁, d₂]) ++ '.' :: ([m₁, m₂] ++ '.' :: ([y₁, y₂, y₃, y₄] ++ behind)) =
      (before ++ day) ++ '.' :: (month ++ '.' :: (year ++ rest)) := by
    simpa using h
  -- Both sides have two dots, so none stands in front of the date that was found.
  have hfront : '.' ∉ front ++ [d₁, d₂] := by
    have hcount := congrArg (List.count '.') hcut
    simp only [List.count_append, List.count_cons_self, List.count_eq_zero.mpr hbefore',
      List.count_eq_zero.mpr hday', List.count_eq_zero.mpr hmonth', List.count_eq_zero.mpr hyear',
      List.count_eq_zero.mpr hrest] at hcount
    rw [← List.count_eq_zero, List.count_append]
    omega
  have hmonths : '.' ∉ [m₁, m₂] := by
    refine not_mem_of_isDigit (fun c hc => hdigits c ?_) (by decide)
    rcases List.mem_pair.mp hc with rfl | rfl <;> simp
  have hfirst := congrArg (cutAt '.') hcut
  rw [cutAt_append hfront, cutAt_append (by simp [hbefore', hday']), Prod.mk.injEq,
    Option.some.injEq] at hfirst
  have hsecond := congrArg (cutAt '.') hfirst.2
  rw [cutAt_append hmonths, cutAt_append hmonth', Prod.mk.injEq, Option.some.injEq] at hsecond
  have hyears := List.append_inj hsecond.2 hlength.symm
  refine ⟨length_of_two_digits hbefore hday (hdigits d₁ (by simp)) hfirst.1, ?_, hyears.2⟩
  rw [← hsecond.1, List.length_cons, List.length_singleton]

/-! ## Occurrences in a written moment -/

namespace WrittenMoment

variable {w : WrittenMoment}

theorem dot_not_mem_timeChars : '.' ∉ w.timeChars := by
  have hgap : '.' ∉ w.gap := not_mem_of_isBlank w.gap_blank (by decide)
  have hhour : '.' ∉ w.hour := not_mem_of_isDigit w.hour_short.digits (by decide)
  have hminute : '.' ∉ w.minute := not_mem_of_isDigit w.minute_short.digits (by decide)
  have hafter : '.' ∉ w.after := not_mem_of_isBlank w.after_blank (by decide)
  simp [timeChars, hgap, hhour, hminute, hafter]

/-- A date in full notation can only be that of the moment. -/
theorem date_unique {front date rest : List Char} (hdate : IsDateNotation date)
    (h : front ++ (date ++ rest) = w.chars) : w.HasFullDate ∧ rest = w.timeChars := by
  have hparts : front ++ (date ++ rest) =
      w.before ++ (w.day ++ '.' :: (w.month ++ '.' :: (w.year ++ w.timeChars))) := by
    rw [h]
    simp [chars, dateChars]
  obtain ⟨hday, hmonth, hrest⟩ := full_of_isDateNotation w.before_blank w.day_short w.month_short
    w.year_length w.year_digits dot_not_mem_timeChars hdate hparts
  exact ⟨⟨hday, hmonth⟩, hrest⟩

/-- A time in full notation can only be that of the moment. -/
theorem time_unique {time rest : List Char} (htime : IsTimeNotation time)
    (h : time ++ rest = w.timeChars) : w.HasFullTime := by
  obtain ⟨h₁, h₂, n₁, n₂, rfl, hdigits⟩ := htime
  have hhours : ':' ∉ [' ', h₁, h₂] := by
    have hpair : ':' ∉ [h₁, h₂] := by
      refine not_mem_of_isDigit (fun c hc => hdigits c ?_) (by decide)
      rcases List.mem_pair.mp hc with rfl | rfl <;> simp
    simpa using hpair
  have hgap : ':' ∉ w.gap := not_mem_of_isBlank w.gap_blank (by decide)
  have hhour : ':' ∉ w.hour := not_mem_of_isDigit w.hour_short.digits (by decide)
  have hcut : [' ', h₁, h₂] ++ ':' :: ([n₁, n₂] ++ rest) =
      (w.gap ++ w.hour) ++ ':' :: (w.minute ++ w.after) := by
    simpa [timeChars] using h
  have hparts := congrArg (cutAt ':') hcut
  rw [cutAt_append hhours, cutAt_append (by simp [hgap, hhour]), Prod.mk.injEq,
    Option.some.injEq] at hparts
  obtain ⟨hhours, hminutes⟩ := hparts
  have hsplit : [' '] ++ [h₁, h₂] = w.gap ++ w.hour := hhours
  have hlength : w.hour.length = 2 :=
    length_of_two_digits w.gap_blank w.hour_short (hdigits h₁ (by simp)) hsplit
  have hspace : [' '] = w.gap := (List.append_inj' hsplit hlength.symm).1
  refine ⟨hspace.symm, hlength, w.minute_short.length.resolve_left fun hone => ?_⟩
  obtain ⟨n, hn⟩ := List.length_eq_one_iff.mp hone
  rw [hn] at hminutes
  have hrest : n₂ :: rest = w.after := (List.cons.inj hminutes).2
  have hafter : n₂ ∈ w.after := hrest ▸ List.mem_cons_self
  exact not_isBlank_and_isDigit (w.after_blank n₂ hafter) (hdigits n₂ (by simp))

theorem isDateNotation_dateChars (h : w.HasFullDate) : IsDateNotation w.dateChars :=
  isDateNotation_join h.1 h.2 w.year_length (List.forall_mem_append.mpr ⟨w.day_short.digits,
    List.forall_mem_append.mpr ⟨w.month_short.digits, w.year_digits⟩⟩)

/-- The search for a date finds the one of the moment if day and month have two digits. -/
theorem looksLikeDate_iff_of_written {s : String} (hs : s.toList = w.chars) :
    looksLikeDate s = true ↔ w.HasFullDate := by
  rw [looksLikeDate_iff, hs]
  constructor
  · rintro ⟨date, ⟨front, rest, h⟩, hdate⟩
    rw [List.append_assoc] at h
    exact (date_unique hdate h).1
  · intro h
    refine ⟨w.dateChars, ⟨w.before, w.timeChars, ?_⟩, isDateNotation_dateChars h⟩
    rw [chars, List.append_assoc]

theorem isTimeNotation_of_hasFullTime (h : w.HasFullTime) :
    IsTimeNotation (w.gap ++ (w.hour ++ ':' :: w.minute)) := by
  obtain ⟨hgap, hhour, hminute⟩ := h
  rw [hgap]
  exact isTimeNotation_join hhour hminute
    (List.forall_mem_append.mpr ⟨w.hour_short.digits, w.minute_short.digits⟩)

/-- The search for a moment finds it if it is in full notation. -/
theorem looksLikeMoment_iff_of_written {s : String} (hs : s.toList = w.chars) :
    looksLikeMoment s = true ↔ w.HasFullDate ∧ w.HasFullTime := by
  rw [looksLikeMoment_iff, hs]
  constructor
  · rintro ⟨date, time, ⟨front, rest, h⟩, hdate, htime⟩
    rw [List.append_assoc, List.append_assoc] at h
    obtain ⟨hfull, hrest⟩ := date_unique hdate h
    exact ⟨hfull, time_unique htime hrest⟩
  · rintro ⟨hdate, htime⟩
    refine ⟨w.dateChars, _, ⟨w.before, w.after, ?_⟩, isDateNotation_dateChars hdate,
      isTimeNotation_of_hasFullTime htime⟩
    simp [chars, timeChars]

end WrittenMoment

/-! ## What the parser reads -/

theorem isDigit_of_digitValue? {c : Char} {n : Nat} (h : digitValue? c = some n) :
    isDigit c = true := by
  rw [isDigit, h]
  rfl

theorem isDigit_of_pair? {tens ones : Char} {n : Nat} (h : pair? tens ones = some n) :
    isDigit tens = true ∧ isDigit ones = true := by
  rw [pair?] at h
  split at h
  · next htens hones => exact ⟨isDigit_of_digitValue? htens, isDigit_of_digitValue? hones⟩
  · cases h

/-- What reads one digit or two digits, and nothing else, reads short numbers. -/
theorem isShortNumber_of_read {read : List Char → Option Nat} {cs : List Char} {n : Nat}
    (h : read cs = some n) (hnil : read [] = none)
    (hone : ∀ c, read [c] = some n → digitValue? c = some n)
    (htwo : ∀ tens ones, read [tens, ones] = some n → pair? tens ones = some n)
    (hmore : ∀ a b c rest, read (a :: b :: c :: rest) = none) : IsShortNumber cs := by
  match cs with
  | [] =>
    rw [hnil] at h
    cases h
  | [c] =>
    have hdigit := isDigit_of_digitValue? (hone c h)
    exact ⟨.inl rfl, by simpa using hdigit⟩
  | [tens, ones] =>
    have hdigits := isDigit_of_pair? (htwo tens ones h)
    exact ⟨.inr rfl, by simpa using hdigits⟩
  | a :: b :: c :: rest =>
    rw [hmore] at h
    cases h

variable {cs : List Char} {n : Nat}

theorem isShortNumber_of_readDay? (h : readDay? cs = some n) : IsShortNumber cs := by
  refine isShortNumber_of_read h rfl (fun c hc => ?_) (fun tens ones hpair => ?_)
    fun _ _ _ _ => rfl
  · rw [readDay?] at hc
    split_ifs at hc
    exact hc
  · rw [readDay?] at hpair
    split_ifs at hpair <;> exact hpair

theorem isShortNumber_of_readMonth? (h : readMonth? cs = some n) : IsShortNumber cs := by
  refine isShortNumber_of_read h rfl (fun c hc => ?_) (fun tens ones hpair => ?_)
    fun _ _ _ _ => rfl
  · rw [readMonth?] at hc
    split_ifs at hc
    exact hc
  · rw [readMonth?] at hpair
    split_ifs at hpair <;> exact hpair

theorem isShortNumber_of_readHour? (h : readHour? cs = some n) : IsShortNumber cs := by
  refine isShortNumber_of_read h rfl (fun c hc => hc) (fun tens ones hpair => ?_)
    fun _ _ _ _ => rfl
  rw [readHour?] at hpair
  split_ifs at hpair <;> exact hpair

theorem isShortNumber_of_readMinute? (h : readMinute? cs = some n) : IsShortNumber cs := by
  refine isShortNumber_of_read h rfl (fun c hc => hc) (fun tens ones hpair => ?_)
    fun _ _ _ _ => rfl
  rw [readMinute?] at hpair
  split_ifs at hpair
  exact hpair

theorem readYear?_eq_some (h : readYear? cs = some n) :
    cs.length = 4 ∧ ∀ c ∈ cs, isDigit c = true := by
  rw [readYear?.eq_def] at h
  split at h
  · next a b c d =>
    split at h
    · next hcentury hrest =>
      obtain ⟨ha, hb⟩ := isDigit_of_pair? hcentury
      obtain ⟨hc, hd⟩ := isDigit_of_pair? hrest
      exact ⟨rfl, by simp [ha, hb, hc, hd]⟩
    · cases h
  · cases h

theorem readTime?_eq_some {hour minute : Nat} (h : readTime? cs = some (hour, minute)) :
    ∃ hourDigits minuteDigits, cs = hourDigits ++ ':' :: minuteDigits ∧
      readHour? hourDigits = some hour ∧ readMinute? minuteDigits = some minute := by
  rw [readTime?] at h
  split at h
  · next hourDigits minuteDigits hcut =>
    split at h
    · next hhour hminute =>
      cases h
      exact ⟨hourDigits, minuteDigits, eq_append_of_cutAt hcut, hhour, hminute⟩
    · cases h
  · cases h

/-- The year stands alone, or a time stands after blanks that follow it. -/
theorem readYearAndTime?_eq_some {year hour minute : Nat}
    (h : readYearAndTime? cs = some (year, hour, minute)) :
    (readYear? cs = some year ∧ hour = 0 ∧ minute = 0) ∨
      ∃ yearDigits gap hourDigits minuteDigits,
        cs = yearDigits ++ (gap ++ (hourDigits ++ ':' :: minuteDigits)) ∧
        readYear? yearDigits = some year ∧ gap ≠ [] ∧ (∀ c ∈ gap, isBlank c = true) ∧
        readHour? hourDigits = some hour ∧ readMinute? minuteDigits = some minute := by
  rw [readYearAndTime?] at h
  split at h
  · next hyear hdrop =>
    cases h
    have hall : cs.take 4 = cs := by rw [← List.take_append_drop 4 cs, hdrop]; simp
    rw [hall] at hyear
    exact .inl ⟨hyear, rfl, rfl⟩
  · next year blank rest hyear hdrop =>
    split at h
    · next hblank =>
      obtain ⟨⟨hour, minute⟩, hread, hfound⟩ := Option.map_eq_some_iff.mp h
      cases hfound
      obtain ⟨hourDigits, minuteDigits, hrest, hhour, hminute⟩ := readTime?_eq_some hread
      refine .inr ⟨cs.take 4, blank :: rest.takeWhile isBlank, hourDigits, minuteDigits, ?_, hyear,
        List.cons_ne_nil _ _, ?_, hhour, hminute⟩
      · rw [← hrest, List.cons_append, List.takeWhile_append_dropWhile, ← hdrop,
          List.take_append_drop]
      · exact List.forall_mem_cons.mpr ⟨hblank, fun c hc => List.mem_takeWhile_imp hc⟩
    · cases h
  · cases h

theorem readMomentChars?_eq_some {t : DateTime} (h : readMomentChars? cs = some t) :
    ∃ dayDigits monthDigits rest day month year,
      cs = dayDigits ++ '.' :: (monthDigits ++ '.' :: rest) ∧
      readDay? dayDigits = some day ∧ readMonth? monthDigits = some month ∧
      readYearAndTime? rest = some (year, t.hour, t.minute) := by
  rw [readMomentChars?] at h
  split at h
  · next dayDigits afterDay hday =>
    split at h
    · next monthDigits afterMonth hmonth =>
      split at h
      · next day month year hour minute hreadDay hreadMonth hreadYear =>
        obtain ⟨date, _, hmoment⟩ := Option.bind_eq_some_iff.mp h
        rw [DateTime.of?] at hmoment
        split at hmoment
        · cases hmoment
          refine ⟨dayDigits, monthDigits, afterMonth, day, month, year, ?_, hreadDay, hreadMonth,
            hreadYear⟩
          rw [eq_append_of_cutAt hday, eq_append_of_cutAt hmonth]
        · cases hmoment
      · cases h
    · cases h
  · cases h

/-- A text that is read has the parts of a moment, or it has those of a date and is read as the
midnight with which this date begins. -/
theorem written_of_readMoment? {s : String} {t : DateTime} (h : readMoment? s = some t) :
    (∃ w : WrittenMoment, s.toList = w.chars) ∨
      (∃ w : WrittenDate, s.toList = w.chars) ∧ t.hour = 0 ∧ t.minute = 0 := by
  obtain ⟨before, after, hs, hbefore, hafter⟩ := exists_trim s.toList
  obtain ⟨day, month, rest, _, _, _, hdate, hday, hmonth, hrest⟩ := readMomentChars?_eq_some h
  have hday' := isShortNumber_of_readDay? hday
  have hmonth' := isShortNumber_of_readMonth? hmonth
  rw [hs, hdate]
  rcases readYearAndTime?_eq_some hrest with ⟨hyear, hmidnight⟩ |
    ⟨year, gap, hour, minute, htimeChars, hyear, hgap, hblank, hhour, hminute⟩
  · have hyears := readYear?_eq_some hyear
    refine .inr ⟨⟨⟨before, day, month, rest, after, hbefore, hday', hmonth', hyears.1, hyears.2,
      hafter⟩, ?_⟩, hmidnight⟩
    simp [WrittenDate.chars, WrittenDate.dateChars]
  · have hyears := readYear?_eq_some hyear
    refine .inl ⟨⟨before, day, month, year, gap, hour, minute, after, hbefore, hday', hmonth',
      hyears.1, hyears.2, hgap, hblank, isShortNumber_of_readHour? hhour,
      isShortNumber_of_readMinute? hminute, hafter⟩, ?_⟩
    rw [htimeChars]
    simp [WrittenMoment.chars, WrittenMoment.dateChars, WrittenMoment.timeChars]

/-- A text that is read has no characters but digits, blanks and the marks of date and time. -/
theorem not_mem_of_readMoment? {s : String} {t : DateTime} (h : readMoment? s = some t) {c : Char}
    (hdigit : isDigit c = false) (hblank : isBlank c = false) (hdot : c ≠ '.') (hcolon : c ≠ ':') :
    c ∉ s.toList := by
  have hnumber : ∀ {cs : List Char}, IsShortNumber cs → c ∉ cs := fun hcs =>
    not_mem_of_isDigit hcs.digits hdigit
  have hgap : ∀ {cs : List Char}, (∀ d ∈ cs, isBlank d = true) → c ∉ cs := fun hcs =>
    not_mem_of_isBlank hcs hblank
  rcases written_of_readMoment? h with ⟨w, hw⟩ | ⟨⟨w, hw⟩, -⟩ <;> rw [hw]
  · simp [WrittenMoment.chars, WrittenMoment.dateChars, WrittenMoment.timeChars, hdot, hcolon,
      hgap w.before_blank, hnumber w.day_short, hnumber w.month_short,
      not_mem_of_isDigit w.year_digits hdigit, hgap w.gap_blank, hnumber w.hour_short,
      hnumber w.minute_short, hgap w.after_blank]
  · simp [WrittenDate.chars, WrittenDate.dateChars, hdot, hgap w.before_blank,
      hnumber w.day_short, hnumber w.month_short, not_mem_of_isDigit w.year_digits hdigit,
      hgap w.after_blank]

/-- A text that is read as a moment with a time has the parts of one. -/
theorem exists_writtenMoment {s : String} {t : DateTime} (h : readMoment? s = some t)
    (htime : t.hour ≠ 0 ∨ t.minute ≠ 0) : ∃ w : WrittenMoment, s.toList = w.chars := by
  rcases written_of_readMoment? h with hw | ⟨_, hhour, hminute⟩
  · exact hw
  · exact absurd hminute (htime.resolve_left (absurd hhour))

end SearchFilter.Calendar

namespace SearchFilter

open SearchFilter.Calendar

/-! ## The times that are kept -/

/-- A text that has been read is unchanged, or has become the moment with its time. -/
def KeepsTime (s : String) (t : DateTime) (result : Except Failure Value) : Prop :=
  result = .ok (.text s) ∨ result = .ok (.datetime t)

/-- What becomes of a text that the date parser reads depends on what is found inside it. -/
theorem coerce_of_readable {type : FieldType} (htype : type ≠ .boolean) {s : String} {t : DateTime}
    (hread : DateParser.default s = .ok (.datetime t)) :
    (Value.text s).coerce type .default =
      .ok (if looksLikeMoment s then .datetime t
        else if looksLikeDate s then .date t.date else .text s) := by
  have hparsed : Value.parsedDate .default s = .ok (.datetime t) := by
    rw [Value.parsedDate, hread]
    rfl
  rw [Value.coerce, if_neg htype]
  show Value.datedText _ s = _
  rw [Value.datedText, hparsed]
  split
  · rfl
  · split <;> rfl

theorem default_of_readMoment? {s : String} {t : DateTime} (h : readMoment? s = some t) :
    DateParser.default s = .ok (.datetime t) := by
  rw [DateParser.default]
  simp only [h]

theorem readMoment?_of_default {s : String} {t : DateTime}
    (h : DateParser.default s = .ok (.datetime t)) : readMoment? s = some t := by
  rw [DateParser.default] at h
  split at h
  · next moment hmoment =>
    cases h
    exact hmoment
  · cases h

/-- The time of a text that the date parser reads is kept exactly if the text is left alone, because
day or month has one digit, or if all of it is in full notation.  Otherwise the text becomes the
date alone. -/
theorem coerce_keepsTime_iff {type : FieldType} (htype : type ≠ .boolean) {s : String}
    {t : DateTime} (hread : DateParser.default s = .ok (.datetime t))
    (htime : t.hour ≠ 0 ∨ t.minute ≠ 0) :
    (∃ w : WrittenMoment, s.toList = w.chars) ∧
      ∀ w : WrittenMoment, s.toList = w.chars →
        (KeepsTime s t ((Value.text s).coerce type .default) ↔ ¬ w.HasFullDate ∨ w.HasFullTime) ∧
        (¬ KeepsTime s t ((Value.text s).coerce type .default) →
          (Value.text s).coerce type .default = .ok (.date t.date)) := by
  refine ⟨exists_writtenMoment (readMoment?_of_default hread) htime, fun w hs => ?_⟩
  have hmoment := WrittenMoment.looksLikeMoment_iff_of_written hs
  have hdate := WrittenMoment.looksLikeDate_iff_of_written hs
  rw [coerce_of_readable htype hread]
  by_cases hfull : w.HasFullDate
  · rw [if_pos (hdate.mpr hfull)]
    by_cases htimeFull : w.HasFullTime
    · rw [if_pos (hmoment.mpr ⟨hfull, htimeFull⟩)]
      have hkeeps : KeepsTime s t (.ok (.datetime t)) := .inr rfl
      exact ⟨iff_of_true hkeeps (.inr htimeFull), fun hdrops => absurd hkeeps hdrops⟩
    · rw [if_neg fun h => htimeFull (hmoment.mp h).2]
      have hdrops : ¬ KeepsTime s t (.ok (.date t.date)) := by simp [KeepsTime]
      exact ⟨iff_of_false hdrops (not_or.mpr ⟨not_not_intro hfull, htimeFull⟩), fun _ => rfl⟩
  · rw [if_neg fun h => hfull (hmoment.mp h).1, if_neg fun h => hfull (hdate.mp h)]
    have hkeeps : KeepsTime s t (.ok (.text s)) := .inl rfl
    exact ⟨iff_of_true hkeeps (.inl hfull), fun hdrops => absurd hkeeps hdrops⟩

/-- Half past ten on the first of February 2024. -/
def halfPastTen : DateTime :=
  ⟨⟨2024, 2, 1, by decide⟩, 10, 30, 0, 0, by decide⟩

/-- The parts of a moment in full notation, with a blank after it. -/
def fullMoment : WrittenMoment where
  before := []
  day := ['0', '1']
  month := ['0', '2']
  year := ['2', '0', '2', '4']
  gap := [' ']
  hour := ['1', '0']
  minute := ['3', '0']
  after := ['\n']
  before_blank := by simp
  day_short := ⟨.inr rfl, List.all_eq_true.mp (by decide)⟩
  month_short := ⟨.inr rfl, List.all_eq_true.mp (by decide)⟩
  year_length := rfl
  year_digits := List.all_eq_true.mp (by decide)
  gap_ne_nil := by simp
  gap_blank := List.all_eq_true.mp (by decide)
  hour_short := ⟨.inr rfl, List.all_eq_true.mp (by decide)⟩
  minute_short := ⟨.inr rfl, List.all_eq_true.mp (by decide)⟩
  after_blank := List.all_eq_true.mp (by decide)

theorem coerce_keepsTime_fullMoment :
    DateParser.default "01.02.2024 10:30\n" = .ok (.datetime halfPastTen) ∧
      KeepsTime "01.02.2024 10:30\n" halfPastTen
        ((Value.text "01.02.2024 10:30\n").coerce .date .default) := by
  have hread : DateParser.default "01.02.2024 10:30\n" = .ok (.datetime halfPastTen) := rfl
  have htype : FieldType.date ≠ .boolean := by decide
  have hkept := (coerce_keepsTime_iff htype hread (.inl (by decide))).2 fullMoment rfl
  exact ⟨hread, hkept.1.mpr (.inr ⟨rfl, rfl, rfl⟩)⟩

/-- Five past nine on the same day. -/
def fivePastNine : DateTime :=
  ⟨halfPastTen.date, 9, 5, 0, 0, by decide⟩

/-- With one digit for the hour the text is read as a moment, but found as a date only. -/
theorem not_keepsTime_of_short_hour :
    DateParser.default "01.02.2024 9:05" = .ok (.datetime fivePastNine) ∧
      (Value.text "01.02.2024 9:05").coerce .datetime .default = .ok (.date fivePastNine.date) ∧
      ¬ KeepsTime "01.02.2024 9:05" fivePastNine
        ((Value.text "01.02.2024 9:05").coerce .datetime .default) := by
  have hread : DateParser.default "01.02.2024 9:05" = .ok (.datetime fivePastNine) := rfl
  have hcoerce : (Value.text "01.02.2024 9:05").coerce .datetime .default =
      .ok (.date fivePastNine.date) := rfl
  refine ⟨hread, hcoerce, ?_⟩
  rw [hcoerce]
  simp [KeepsTime]

end SearchFilter
