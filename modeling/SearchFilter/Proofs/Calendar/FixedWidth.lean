import SearchFilter.Proofs.Calendar.Digits
import SearchFilter.Proofs.Calendar.Moments
import SearchFilter.Proofs.Coercion

/-!
# Dates of fixed width

A text of the form `DD.MM.YYYY` or `DD.MM.YYYY HH:MM`, with blanks around it, is read as the date or
the moment that its digits stand for.  There are many ways in which another reading could come
about: one digit is enough for a day, an hour or a minute, the time may be missing, and the value is
made from what is found inside of the text.

* `ReadsPairs` says of a reader of two digits that it gives the number within its bounds;
  `ReadsPairs.read_row` carries this over to rows of digits.
* `readMoment?_dateDigits` and `readMoment?_momentDigits` say that the parser reads the date and the
  moment that the digits stand for, or nothing.
* `coerce_digits` is the result: what there is becomes a date or a moment, and all else is refused.
-/

namespace SearchFilter.Calendar

open SearchFilter.Text SearchFilter.Number

/-! ## Reading two digits -/

theorem exists_digitChar {c : Char} (h : isAsciiDigit c = true) :
    ∃ d : Fin 10, c = Nat.digitChar d := by
  obtain ⟨hleast, hgreatest⟩ := toNat_of_isAsciiDigit h
  refine ⟨⟨c.toNat - 48, by omega⟩, ?_⟩
  apply Char.toNat_inj.mp
  show c.toNat = (Nat.digitChar (c.toNat - 48)).toNat
  rw [Nat.toNat_digitChar_of_lt_ten (by omega)]
  omega

/-- A number, if it lies within bounds. -/
def within? (least greatest n : Nat) : Option Nat :=
  if least ≤ n ∧ n ≤ greatest then some n else none

/-- Bounds that are checked again later can be left out. -/
theorem within?_bind {α : Type} {least greatest n : Nat} {f : Nat → Option α}
    (h : ∀ x, f n = some x → least ≤ n ∧ n ≤ greatest) :
    (within? least greatest n).bind f = f n := by
  unfold within?
  split
  · rfl
  · next hout =>
    cases hf : f n with
    | none => rfl
    | some x => exact absurd (h x hf) hout

/-- Of every two digits, the reader gives the number if it lies within the bounds. -/
def ReadsPairs (read : List Char → Option Nat) (least greatest : Nat) : Prop :=
  ∀ tens ones : Fin 10, read [Nat.digitChar tens, Nat.digitChar ones] =
    within? least greatest (10 * tens + ones)

instance (read : List Char → Option Nat) (least greatest : Nat) :
    Decidable (ReadsPairs read least greatest) :=
  inferInstanceAs (Decidable (∀ _ _ : Fin 10, _))

theorem readsPairs_readDay? : ReadsPairs readDay? 1 31 := by decide +kernel

theorem readsPairs_readMonth? : ReadsPairs readMonth? 1 12 := by decide +kernel

theorem readsPairs_readHour? : ReadsPairs readHour? 0 23 := by decide +kernel

theorem readsPairs_readMinute? : ReadsPairs readMinute? 0 59 := by decide +kernel

theorem ReadsPairs.read_row {read : List Char → Option Nat} {least greatest : Nat}
    (h : ReadsPairs read least greatest) (row : DigitRow 2) :
    read row.chars = within? least greatest row.value := by
  obtain ⟨c, d, hchars⟩ := List.length_eq_two.mp row.length_chars
  have hdigits := row.isAsciiDigit_chars
  have hzero : '0'.toNat = 48 := rfl
  unfold DigitRow.value
  rw [hchars] at hdigits ⊢
  obtain ⟨tens, rfl⟩ := exists_digitChar (hdigits c (by simp))
  obtain ⟨ones, rfl⟩ := exists_digitChar (hdigits d (by simp))
  rw [h tens ones, Nat.ofDigitChars_cons, Nat.ofDigitChars_cons, Nat.ofDigitChars_nil,
    Nat.toNat_digitChar_of_lt_ten tens.isLt, Nat.toNat_digitChar_of_lt_ten ones.isLt]
  congr 1
  omega

/-- Any four digits are read as a year. -/
theorem readYear?_row (row : DigitRow 4) : readYear? row.chars = some row.value := by
  obtain ⟨a, b, c, d, hchars⟩ := List.length_eq_four.mp row.length_chars
  have hdigits := row.isAsciiDigit_chars
  have hzero : '0'.toNat = 48 := rfl
  unfold DigitRow.value
  rw [hchars] at hdigits ⊢
  have hvalue : ∀ e ∈ [a, b, c, d], digitValue? e = some (e.toNat - 48) :=
    fun e he => digitValue?_of_isAsciiDigit (hdigits e he)
  simp only [readYear?, pair?, hvalue a (by simp), hvalue b (by simp), hvalue c (by simp),
    hvalue d (by simp), Nat.ofDigitChars_cons, Nat.ofDigitChars_nil, Option.some.injEq]
  omega

/-! ## Reading dates and times -/

theorem DigitRow.mark_not_mem {width : Nat} (row : DigitRow width) {mark : Char}
    (hmark : isDigit mark = false) : mark ∉ row.chars :=
  not_mem_of_isDigit row.isDigit_chars hmark

/-- The moment made of a day, a month, and what is read after them. -/
def momentAfter? (rest : List Char) (day month : Nat) : Option DateTime :=
  (readYearAndTime? rest).bind fun read =>
    (Date.of? read.1 month day).bind fun date => DateTime.of? date read.2.1 read.2.2 0 0

theorem exists_isDate {rest : List Char} {day month : Nat} {moment : DateTime}
    (h : momentAfter? rest day month = some moment) : ∃ year, IsDate year month day := by
  obtain ⟨read, _, hread⟩ := Option.bind_eq_some_iff.mp h
  obtain ⟨date, hdate, _⟩ := Option.bind_eq_some_iff.mp hread
  exact ⟨read.1, (Date.of?_eq_some hdate).1⟩

namespace DateDigits

variable (d : DateDigits)

/-- Day and month are read as the numbers that they are. -/
theorem readMomentChars?_digits (rest : List Char) :
    readMomentChars? (d.day.chars ++ '.' :: (d.month.chars ++ '.' :: rest)) =
      momentAfter? rest d.day.value d.month.value := by
  have hread : readMomentChars? (d.day.chars ++ '.' :: (d.month.chars ++ '.' :: rest)) =
      (within? 1 31 d.day.value).bind fun day =>
        (within? 1 12 d.month.value).bind fun month => momentAfter? rest day month := by
    rw [readMomentChars?, cutAt_append (d.day.mark_not_mem (by decide))]
    simp only [cutAt_append (d.month.mark_not_mem (by decide : isDigit '.' = false)),
      readsPairs_readDay?.read_row, readsPairs_readMonth?.read_row, momentAfter?]
    cases within? 1 31 d.day.value with
    | none => rfl
    | some day =>
      cases within? 1 12 d.month.value with
      | none => rfl
      | some month => cases readYearAndTime? rest <;> rfl
  -- The bounds of the readers are wider than those of the calendar, which come after them.
  have hmonth : ∀ day, ((within? 1 12 d.month.value).bind fun month =>
      momentAfter? rest day month) = momentAfter? rest day d.month.value := by
    intro day
    apply within?_bind
    intro moment h
    obtain ⟨year, hyear⟩ := exists_isDate h
    unfold IsDate at hyear
    omega
  simp only [hread, hmonth]
  apply within?_bind
  intro moment h
  obtain ⟨year, hyear⟩ := exists_isDate h
  have hdays := daysInMonth_le year d.month.value
  unfold IsDate at hyear
  omega

theorem readMomentChars?_chars :
    readMomentChars? d.chars = d.date?.bind fun date => DateTime.of? date 0 0 0 0 := by
  have hyear : readYearAndTime? d.year.chars = some (d.year.value, 0, 0) := by
    rw [readYearAndTime?, List.take_of_length_le d.year.length_chars.le, readYear?_row,
      List.drop_of_length_le d.year.length_chars.le]
  rw [chars, readMomentChars?_digits, momentAfter?, hyear]
  rfl

end DateDigits

namespace TimeDigits

variable (t : TimeDigits)

theorem readTime?_chars :
    readTime? t.chars =
      (within? 0 23 t.hour.value).bind fun hour =>
        (within? 0 59 t.minute.value).map fun minute => (hour, minute) := by
  rw [readTime?, chars, cutAt_append (t.hour.mark_not_mem (by decide))]
  simp only [readsPairs_readHour?.read_row, readsPairs_readMinute?.read_row]
  cases within? 0 23 t.hour.value with
  | none => rfl
  | some hour => cases within? 0 59 t.minute.value <;> rfl

theorem dropWhile_chars : t.chars.dropWhile isBlank = t.chars := by
  obtain ⟨tens, ones, hhour⟩ := List.length_eq_two.mp t.hour.length_chars
  have hblank := t.hour.not_isBlank_chars tens (by simp [hhour])
  rw [chars, hhour]
  exact List.dropWhile_cons_of_neg (by simp [hblank])

theorem readYearAndTime?_chars (year : DigitRow 4) :
    readYearAndTime? (year.chars ++ ' ' :: t.chars) =
      (readTime? t.chars).map fun time => (year.value, time.1, time.2) := by
  have hspace : isBlank ' ' = true := by decide
  rw [readYearAndTime?, List.take_left' year.length_chars, List.drop_left' year.length_chars,
    readYear?_row]
  simp only [hspace, if_true, dropWhile_chars]

/-- Hour and minute are read as the numbers that they are. -/
theorem readMomentChars?_chars (d : DateDigits) :
    readMomentChars? (d.chars ++ ' ' :: t.chars) = d.date?.bind t.moment? := by
  have hchars : d.chars ++ ' ' :: t.chars =
      d.day.chars ++ '.' :: (d.month.chars ++ '.' :: (d.year.chars ++ ' ' :: t.chars)) := by
    simp [DateDigits.chars]
  have hread : momentAfter? (d.year.chars ++ ' ' :: t.chars) d.day.value d.month.value =
      d.date?.bind fun date => (within? 0 23 t.hour.value).bind fun hour =>
        (within? 0 59 t.minute.value).bind fun minute => DateTime.of? date hour minute 0 0 := by
    rw [momentAfter?, readYearAndTime?_chars, readTime?_chars]
    cases within? 0 23 t.hour.value with
    | none => simp
    | some hour =>
      cases within? 0 59 t.minute.value with
      | none => simp
      | some minute => rfl
  have hminute : ∀ date hour, ((within? 0 59 t.minute.value).bind fun minute =>
      DateTime.of? date hour minute 0 0) = DateTime.of? date hour t.minute.value 0 0 := by
    intro date hour
    apply within?_bind
    intro moment h
    have htime := (DateTime.of?_eq_some h).1
    unfold IsTime at htime
    omega
  rw [hchars, DateDigits.readMomentChars?_digits, hread]
  simp only [hminute]
  congr 1
  funext date
  apply within?_bind
  intro moment h
  have htime := (DateTime.of?_eq_some h).1
  unfold IsTime at htime
  omega

end TimeDigits

/-! ## Texts in digits -/

/-- Nothing but blanks stands around the characters in the text. -/
def StandsAlone (cs : List Char) (s : String) : Prop :=
  ∃ before after, s.toList = before ++ (cs ++ after) ∧ (∀ c ∈ before, isBlank c = true) ∧
    ∀ c ∈ after, isBlank c = true

theorem StandsAlone.trim_eq {cs : List Char} {s : String} (h : StandsAlone cs s)
    (hfirst : ∀ c ∈ cs.head?, isBlank c = false) (hlast : ∀ c ∈ cs.getLast?, isBlank c = false) :
    trim s.toList = cs := by
  obtain ⟨before, after, hs, hbefore, hafter⟩ := h
  rw [hs]
  exact trim_append hbefore hafter hfirst hlast

theorem StandsAlone.isInfix {cs : List Char} {s : String} (h : StandsAlone cs s) :
    cs <:+: s.toList := by
  obtain ⟨before, after, hs, _, _⟩ := h
  exact ⟨before, after, by rw [hs, List.append_assoc]⟩

theorem DigitRow.chars_ne_nil {width : Nat} (row : DigitRow (width + 1)) : row.chars ≠ [] :=
  List.ne_nil_of_length_pos (by rw [row.length_chars]; omega)

section Texts

variable {d : DateDigits} {t : TimeDigits} {s : String}

theorem DateDigits.isDateNotation_chars (d : DateDigits) : IsDateNotation d.chars :=
  isDateNotation_join d.day.length_chars d.month.length_chars d.year.length_chars
    (List.forall_mem_append.mpr ⟨d.day.isDigit_chars,
      List.forall_mem_append.mpr ⟨d.month.isDigit_chars, d.year.isDigit_chars⟩⟩)

theorem TimeDigits.isTimeNotation_chars (t : TimeDigits) : IsTimeNotation (' ' :: t.chars) :=
  isTimeNotation_join t.hour.length_chars t.minute.length_chars
    (List.forall_mem_append.mpr ⟨t.hour.isDigit_chars, t.minute.isDigit_chars⟩)

theorem looksLikeDate_of_dateDigits (hs : StandsAlone d.chars s) : looksLikeDate s = true :=
  looksLikeDate_iff.mpr ⟨d.chars, hs.isInfix, d.isDateNotation_chars⟩

theorem looksLikeMoment_of_momentDigits (hs : StandsAlone (d.chars ++ ' ' :: t.chars) s) :
    looksLikeMoment s = true :=
  looksLikeMoment_iff.mpr
    ⟨d.chars, ' ' :: t.chars, hs.isInfix, d.isDateNotation_chars, t.isTimeNotation_chars⟩

/-- Without a colon there is no time. -/
theorem not_looksLikeMoment_of_dateDigits (hs : StandsAlone d.chars s) :
    ¬ looksLikeMoment s = true := by
  intro hmoment
  obtain ⟨date, time, hwithin, _, h₁, h₂, n₁, n₂, rfl, _⟩ := looksLikeMoment_iff.mp hmoment
  have hcolon : ':' ∈ s.toList := hwithin.subset (by simp)
  obtain ⟨before, after, hchars, hbefore, hafter⟩ := hs
  have hbefore' : ':' ∉ before := not_mem_of_isBlank hbefore (by decide)
  have hafter' : ':' ∉ after := not_mem_of_isBlank hafter (by decide)
  have hrow : ∀ {width : Nat} (row : DigitRow width), ':' ∉ row.chars :=
    fun row => row.mark_not_mem (by decide)
  rw [hchars, DateDigits.chars] at hcolon
  simp [hrow, hbefore', hafter'] at hcolon

/-- A text of the form `DD.MM.YYYY` is read as the day with these numbers. -/
theorem readMoment?_dateDigits (hs : StandsAlone d.chars s) :
    readMoment? s = d.date?.bind fun date => DateTime.of? date 0 0 0 0 := by
  have hlast : d.chars = (d.day.chars ++ '.' :: (d.month.chars ++ ['.'])) ++ d.year.chars := by
    simp [DateDigits.chars]
  have htrim : trim s.toList = d.chars := by
    apply hs.trim_eq
    · exact not_isBlank_head?_append d.day.chars_ne_nil d.day.isDigit_chars _
    · rw [hlast]
      exact not_isBlank_getLast?_append d.year.chars_ne_nil d.year.isDigit_chars _
  rw [readMoment?, htrim, d.readMomentChars?_chars]

/-- A text of the form `DD.MM.YYYY HH:MM` is read as the moment with these numbers. -/
theorem readMoment?_momentDigits (hs : StandsAlone (d.chars ++ ' ' :: t.chars) s) :
    readMoment? s = d.date?.bind t.moment? := by
  have hfirst : d.chars ++ ' ' :: t.chars =
      d.day.chars ++ ('.' :: (d.month.chars ++ '.' :: d.year.chars) ++ ' ' :: t.chars) := by
    simp [DateDigits.chars]
  have hlast : d.chars ++ ' ' :: t.chars =
      (d.chars ++ ' ' :: (t.hour.chars ++ [':'])) ++ t.minute.chars := by
    simp [TimeDigits.chars]
  have htrim : trim s.toList = d.chars ++ ' ' :: t.chars := by
    apply hs.trim_eq
    · rw [hfirst]
      exact not_isBlank_head?_append d.day.chars_ne_nil d.day.isDigit_chars _
    · rw [hlast]
      exact not_isBlank_getLast?_append t.minute.chars_ne_nil t.minute.isDigit_chars _
  rw [readMoment?, htrim, t.readMomentChars?_chars]

end Texts

end SearchFilter.Calendar

namespace SearchFilter

open SearchFilter.Calendar

/-! ## What becomes of them -/

variable {type : FieldType} {s : String}

theorem coerce_dateDigits (htype : type ≠ .boolean) {d : DateDigits}
    (hs : StandsAlone d.chars s) {date : Date} (hdate : d.date? = some date) :
    (Value.text s).coerce type .default = .ok (.date date) := by
  have hread : readMoment? s = some ⟨date, 0, 0, 0, 0, by decide⟩ := by
    rw [readMoment?_dateDigits hs, hdate]
    rfl
  rw [coerce_of_readable htype (default_of_readMoment? hread),
    if_neg (not_looksLikeMoment_of_dateDigits hs), if_pos (looksLikeDate_of_dateDigits hs)]

theorem coerce_momentDigits (htype : type ≠ .boolean) {d : DateDigits} {t : TimeDigits}
    (hs : StandsAlone (d.chars ++ ' ' :: t.chars) s) {date : Date} (hdate : d.date? = some date)
    {moment : DateTime} (hmoment : t.moment? date = some moment) :
    (Value.text s).coerce type .default = .ok (.datetime moment) := by
  have hread : readMoment? s = some moment := by
    rw [readMoment?_momentDigits hs, hdate, Option.bind_some, hmoment]
  rw [coerce_of_readable htype (default_of_readMoment? hread),
    if_pos (looksLikeMoment_of_momentDigits hs)]

/-- A text in digits becomes the date or the moment with these numbers if there is one, and is
refused as it stands if there is none.  So a date, or a moment without seconds, is found again in
the text that is written of it. -/
theorem coerce_digits (htype : type ≠ .boolean) :
    (∀ d : DateDigits, StandsAlone d.chars s →
      (d.IsDay → ∃ date, d.Denotes date ∧
        (Value.text s).coerce type .default = .ok (.date date)) ∧
      (¬ d.IsDay → ∃ reason,
        (Value.text s).coerce type .default = .error (.unreadableDate s reason))) ∧
    (∀ (d : DateDigits) (t : TimeDigits), StandsAlone (d.chars ++ ' ' :: t.chars) s →
      (d.IsDay ∧ t.IsTimeOfDay → ∃ moment, d.Denotes moment.date ∧ t.Denotes moment ∧
        (Value.text s).coerce type .default = .ok (.datetime moment)) ∧
      (¬ (d.IsDay ∧ t.IsTimeOfDay) → ∃ reason,
        (Value.text s).coerce type .default = .error (.unreadableDate s reason))) ∧
    (∀ date : Date, StandsAlone date.dottedText.toList s →
      (Value.text s).coerce type .default = .ok (.date date)) ∧
    ∀ moment : DateTime, moment.second = 0 → moment.microsecond = 0 →
      StandsAlone moment.dottedText.toList s →
        (Value.text s).coerce type .default = .ok (.datetime moment) := by
  refine ⟨?_, ?_, ?_, ?_⟩
  · intro d hs
    refine ⟨fun hday => ?_, fun hday => ?_⟩
    · obtain ⟨date, hdate⟩ := DateDigits.exists_date? hday
      exact ⟨date, DateDigits.denotes_of_date? hdate, coerce_dateDigits htype hs hdate⟩
    · apply coerce_of_unreadable htype (looksLikeDate_of_dateDigits hs)
      rw [readMoment?_dateDigits hs, DateDigits.date?_eq_none hday]
      rfl
  · intro d t hs
    refine ⟨fun ⟨hday, htime⟩ => ?_, fun hnot => ?_⟩
    · obtain ⟨date, hdate⟩ := DateDigits.exists_date? hday
      obtain ⟨moment, hmoment⟩ := TimeDigits.exists_moment? htime date
      obtain ⟨hdenotes, rfl⟩ := TimeDigits.denotes_of_moment? hmoment
      exact ⟨moment, DateDigits.denotes_of_date? hdate, hdenotes,
        coerce_momentDigits htype hs hdate hmoment⟩
    · apply coerce_of_unreadable htype
        (looksLikeDate_of_looksLikeMoment (looksLikeMoment_of_momentDigits hs))
      rw [readMoment?_momentDigits hs, Option.bind_eq_none_iff]
      intro date hdate
      rw [Option.eq_none_iff_forall_ne_some]
      intro moment hmoment
      exact hnot ⟨DateDigits.isDay_of_date? hdate, TimeDigits.isTimeOfDay_of_moment? hmoment⟩
  · intro date hs
    rw [date.toList_dottedText] at hs
    exact coerce_dateDigits htype hs date.date?_digits
  · intro moment hsecond hmicrosecond hs
    rw [moment.toList_dottedText] at hs
    exact coerce_momentDigits htype hs moment.date.date?_digits
      (moment.moment?_timeDigits hsecond hmicrosecond)

/-- The last minute of a leap day. -/
def lastMinute : DateTime :=
  ⟨⟨2000, 2, 29, by decide⟩, 23, 59, 0, 0, by decide⟩

/-- The digits of a leap day that the year 1900 did not have. -/
def noLeapDay : DateDigits :=
  { lastMinute.date.digits with year := (⟨1900, 2, 28, by decide⟩ : Date).digits.year }

theorem coerce_digits_leapDays :
    (Value.text "\t29.02.2000 23:59\u3000").coerce .date .default = .ok (.datetime lastMinute) ∧
      ∃ reason, (Value.text " 29.02.1900").coerce .text .default =
        .error (.unreadableDate " 29.02.1900" reason) := by
  have hdate : FieldType.date ≠ .boolean := by decide
  have htext : FieldType.text ≠ .boolean := by decide
  have hmoment : StandsAlone lastMinute.dottedText.toList "\t29.02.2000 23:59\u3000" :=
    ⟨['\t'], ['\u3000'], rfl, List.all_eq_true.mp (by decide), List.all_eq_true.mp (by decide)⟩
  have hdigits : StandsAlone noLeapDay.chars " 29.02.1900" :=
    ⟨[' '], [], rfl, List.all_eq_true.mp (by decide), by simp⟩
  have hday : ¬ noLeapDay.IsDay := by
    rw [DateDigits.IsDay, isGregorian_iff]
    decide
  exact ⟨(coerce_digits hdate).2.2.2 lastMinute rfl rfl hmoment,
    ((coerce_digits htext).1 noLeapDay hdigits).2 hday⟩

end SearchFilter
