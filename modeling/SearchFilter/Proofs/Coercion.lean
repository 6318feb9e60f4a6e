import SearchFilter.Coercion
import SearchFilter.Proofs.Calendar.Notation
import SearchFilter.Proofs.Json.Writable
import SearchFilter.Proofs.Number.Numerals
import SearchFilter.Proofs.Results

/-!
# What becomes of a value that is read

`Value.integers` reads lists of integer texts, and `Value.coerce` reads dates.  Both leave most
values as they are.

* `integers_ok` says which values `integers` changes, and into what.
* `integers_error` and `coerce_default_error` say which values are refused, and with which failure:
  `HasUnreadableNumeral` and `IsUnreadableDate`.
* `coerce_default_ok` says what is read for a field.
* Values that can be written can still be written after they have been read
  (`writable_of_integers`, `writable_of_coerce_default`), and values that are not blank do not become
  so (`isBlank_of_integers`, `isBlank_of_coerce_default`).
-/

namespace SearchFilter

open SearchFilter.Calendar

/-! ## Lists of integers -/

/-- A value that `integers` accepts is returned, or is a list or tuple of integers or of integer
texts and becomes the list of those integers. -/
theorem integers_ok {value read : Value} (h : value.integers = .ok read) :
    read = value ∨ ∃ items, value.sequence? = some items ∧
      ((items.all Value.isInteger = true ∧ read = .list items) ∨
        (items.all Value.isIntegerText = true ∧
          ∃ numbers, items.mapM Value.toInteger = .ok numbers ∧
            read = .list (numbers.map .int))) := by
  rw [Value.integers] at h
  split at h
  · exact .inl (Except.ok.inj h).symm
  · exact .inl (Except.ok.inj h).symm
  · next items hne hitems =>
    split at h
    · next hall => exact .inr ⟨items, hitems, .inl ⟨hall, (Except.ok.inj h).symm⟩⟩
    · split at h
      · next hall =>
        obtain ⟨numbers, hnumbers, rfl⟩ := map_eq_ok h
        exact .inr ⟨items, hitems, .inr ⟨hall, numbers, hnumbers, rfl⟩⟩
      · exact .inl (Except.ok.inj h).symm

/-- All items are recognised as integers, but one of them cannot be read. -/
def Value.HasUnreadableNumeral (value : Value) : Prop :=
  ∃ items, value.sequence? = some items ∧ items.all isIntegerText = true ∧
    ∃ item ∈ items, ∃ s, item.text? = some s ∧ ¬ Number.Readable s

/-- An integer text is read as its numeral. -/
theorem toInteger_of_isIntegerText {item : Value} (h : item.isIntegerText = true) :
    ∃ s, item.text? = some s ∧ Number.isIntegerLike s = true ∧
      item.toInteger = Number.readInteger s := by
  rw [Value.isIntegerText] at h
  cases htext : item.text? with
  | none => simp [htext] at h
  | some s =>
    rw [htext] at h
    refine ⟨s, rfl, h, ?_⟩
    cases item with
    | text t | fieldType kind =>
      cases htext
      rfl
    | _ => cases htext

theorem readInteger_error {text : String} {e : Failure} (h : Number.readInteger text = .error e) :
    e = .notAnInteger text ∨ ∃ digits, e = .numeralTooLong digits := by
  rw [Number.readInteger] at h
  split_ifs at h
  · exact .inl (Except.error.inj h).symm
  · exact .inr ⟨_, (Except.error.inj h).symm⟩
  · exact .inl (Except.error.inj h).symm

/-- A list of integer texts is read unless one of them is unreadable. -/
theorem mapM_toInteger_isOk_iff {items : List Value}
    (htexts : items.all Value.isIntegerText = true) :
    (∃ numbers, items.mapM Value.toInteger = .ok numbers) ↔
      ¬ ∃ item ∈ items, ∃ s, item.text? = some s ∧ ¬ Number.Readable s := by
  rw [← failure?_eq_none, failure?_mapM, List.findSome?_eq_none_iff]
  push Not
  refine forall₂_congr fun item hitem => ?_
  obtain ⟨s, htext, hlike, hread⟩ :=
    toInteger_of_isIntegerText (List.all_eq_true.mp htexts item hitem)
  rw [hread, htext, failure?_eq_none]
  have hok : (∃ n, Number.readInteger s = .ok n) ↔ Number.Readable s := by
    rw [← Number.readInteger_isOk_iff hlike]
    cases Number.readInteger s <;> simp [Except.isOk, Except.toBool]
  rw [hok]
  simp

/-- Values are accepted unless they have an unreadable numeral. -/
theorem integers_isOk_iff (value : Value) :
    (∃ read, value.integers = .ok read) ↔ ¬ value.HasUnreadableNumeral := by
  rw [Value.integers, Value.HasUnreadableNumeral]
  cases value.sequence? with
  | none => simp
  | some items =>
    simp only [Option.some.injEq, exists_eq_left']
    cases items with
    | nil => simp
    | cons first rest =>
      simp only
      split
      · next hintegers =>
        -- an integer is no text, so no item is both
        refine ⟨fun _ hunreadable => ?_, fun _ => ⟨_, rfl⟩⟩
        obtain ⟨_, item, hitem, s, htext, _⟩ := hunreadable
        have hinteger := List.all_eq_true.mp hintegers item hitem
        cases item <;> simp_all [Value.isInteger, Value.text?]
      · split
        · next htexts =>
          rw [and_iff_right htexts, ← mapM_toInteger_isOk_iff htexts]
          cases (first :: rest).mapM Value.toInteger <;> simp [Except.map]
        · next htexts => simp [htexts]

/-- The failure names a numeral that is no integer or has too many digits. -/
theorem integers_error {value : Value} {e : Failure} (h : value.integers = .error e) :
    (∃ text, e = .notAnInteger text) ∨ ∃ digits, e = .numeralTooLong digits := by
  rw [Value.integers] at h
  split at h
  · cases h
  · cases h
  · next items _ _ =>
    split_ifs at h with _ htexts
    have hfirst := failure?_eq_some.mpr (map_eq_error h)
    rw [failure?_mapM] at hfirst
    obtain ⟨item, hitem, hfailure⟩ := List.exists_of_findSome?_eq_some hfirst
    obtain ⟨s, _, _, hread⟩ :=
      toInteger_of_isIntegerText (List.all_eq_true.mp htexts item hitem)
    rw [hread, failure?_eq_some] at hfailure
    exact (readInteger_error hfailure).imp_left fun he => ⟨s, he⟩

section Lists

/-- How a list or tuple that is not empty is read. -/
theorem integers_of_sequence {value : Value} {items : List Value}
    (hitems : value.sequence? = some items) (hne : items ≠ []) :
    value.integers =
      if items.all Value.isInteger then .ok (.list items)
      else if items.all Value.isIntegerText then
        (items.mapM Value.toInteger).map fun numbers => .list (numbers.map .int)
      else .ok value := by
  rw [Value.integers, hitems]
  cases items with
  | nil => exact absurd rfl hne
  | cons item rest => rfl

theorem integers_list {items : List Value} (hne : items ≠ []) :
    (Value.list items).integers =
      if items.all Value.isInteger then .ok (.list items)
      else if items.all Value.isIntegerText then
        (items.mapM Value.toInteger).map fun numbers => .list (numbers.map .int)
      else .ok (.list items) :=
  integers_of_sequence rfl hne

variable {strings : List String} (hne : strings ≠ [])

include hne

theorem all_isInteger_texts : (strings.map Value.text).all Value.isInteger = false := by
  cases strings with
  | nil => exact absurd rfl hne
  | cons s rest => rfl

/-- Texts that are not all integers are left as they are. -/
theorem integers_texts (hmixed : strings.all Number.isIntegerLike = false) :
    (Value.list (strings.map .text)).integers = .ok (.list (strings.map .text)) := by
  have htexts : (strings.map Value.text).all Value.isIntegerText = false := by
    rw [List.all_map]
    exact hmixed
  rw [integers_list (by simpa using hne), all_isInteger_texts hne, htexts]
  rfl

/-- Texts that all look like integers are read as integers. -/
theorem integers_numerals (hall : strings.all Number.isIntegerLike = true) {numbers : List Int}
    (hread : strings.mapM Number.readInteger = .ok numbers) :
    (Value.list (strings.map .text)).integers = .ok (.list (numbers.map .int)) := by
  have htexts : (strings.map Value.text).all Value.isIntegerText = true := by
    rw [List.all_map]
    exact hall
  have hnumbers : (strings.map Value.text).mapM Value.toInteger = .ok numbers := by
    rw [List.mapM_map]
    exact hread
  rw [integers_list (by simpa using hne), all_isInteger_texts hne, htexts, hnumbers]
  rfl

end Lists

/-! ## Dates -/

/-- A text in which a date occurs, but which is not the notation of a day or a moment. -/
def Value.IsUnreadableDate (value : Value) : Prop :=
  ∃ s, value = .text s ∧ looksLikeDate s = true ∧ readMoment? s = none

theorem parsedDate_default_error {s : String} {e : Failure} :
    Value.parsedDate .default s = .error e ↔
      readMoment? s = none ∧
        e = .unreadableDate s ("no format matches " ++ Text.quoted (Text.strip s)) := by
  rw [Value.parsedDate, DateParser.default]
  cases readMoment? s with
  | none => simp [Except.mapError, eq_comm]
  | some moment => simp [Except.mapError]

/-- A text is refused when a date occurs in it that the default parser cannot read. -/
theorem datedText_default_error {s : String} {e : Failure} :
    Value.datedText .default s = .error e ↔
      looksLikeDate s = true ∧ readMoment? s = none ∧
        e = .unreadableDate s ("no format matches " ++ Text.quoted (Text.strip s)) := by
  rw [Value.datedText, ← parsedDate_default_error]
  by_cases hmoment : looksLikeMoment s = true
  · rw [if_pos hmoment, and_iff_right (looksLikeDate_of_looksLikeMoment hmoment)]
  · rw [if_neg hmoment]
    by_cases hdate : looksLikeDate s = true
    · rw [if_pos hdate, and_iff_right hdate, ← failure?_eq_some, failure?_map, failure?_eq_some]
    · simp [hdate]

/-- Without a date in it, a text is left as it is. -/
theorem coerce_of_not_looksLikeDate {s : String} {type : FieldType} (htype : type ≠ .boolean)
    (parser : DateParser) (hdate : ¬ looksLikeDate s = true) :
    (Value.text s).coerce type parser = .ok (.text s) := by
  have hmoment : ¬ looksLikeMoment s = true :=
    fun hmoment => hdate (looksLikeDate_of_looksLikeMoment hmoment)
  rw [Value.coerce, if_neg htype]
  show Value.datedText parser s = _
  rw [Value.datedText, if_neg hmoment, if_neg hdate]

/-- A text in which a date occurs and which cannot be read is refused. -/
theorem coerce_of_unreadable {s : String} {type : FieldType} (htype : type ≠ .boolean)
    (hdate : looksLikeDate s = true) (hread : readMoment? s = none) :
    ∃ reason, (Value.text s).coerce type .default = .error (.unreadableDate s reason) := by
  rw [Value.coerce, if_neg htype]
  exact ⟨_, datedText_default_error.mpr ⟨hdate, hread, rfl⟩⟩

theorem parsedDate_default_ok {s : String} {read : Value}
    (h : Value.parsedDate .default s = .ok read) : ∃ t, read = .datetime t := by
  rw [Value.parsedDate, DateParser.default] at h
  cases hmoment : readMoment? s with
  | none =>
    rw [hmoment] at h
    cases h
  | some t =>
    rw [hmoment] at h
    cases h
    exact ⟨t, rfl⟩

/-- What is read for a field is the value itself, a truth value, a moment or a day. -/
theorem coerce_default_ok {value read : Value} {type : FieldType}
    (h : value.coerce type .default = .ok read) :
    read = value ∨ (∃ b, read = .bool b) ∨ (∃ t, read = .datetime t) ∨ ∃ d, read = .date d := by
  unfold Value.coerce at h
  by_cases htype : type = .boolean
  · rw [if_pos htype] at h
    cases h
    unfold Value.truthValue
    split
    · exact .inl rfl
    · split_ifs
      · exact .inr (.inl ⟨true, rfl⟩)
      · exact .inr (.inl ⟨false, rfl⟩)
      · exact .inl rfl
  · rw [if_neg htype] at h
    cases value with
    | text s =>
      change Value.datedText .default s = .ok read at h
      rw [Value.datedText] at h
      split_ifs at h
      · exact .inr (.inr (.inl (parsedDate_default_ok h)))
      · obtain ⟨moment, hmoment, rfl⟩ := map_eq_ok h
        obtain ⟨t, rfl⟩ := parsedDate_default_ok hmoment
        exact .inr (.inr (.inr ⟨t.date, rfl⟩))
      · exact .inl (Except.ok.inj h).symm
    | _ => exact .inl (Except.ok.inj h).symm

/-- The failure of reading a date names the text that was to be read. -/
theorem coerce_default_error {value : Value} {type : FieldType} {e : Failure}
    (h : value.coerce type .default = .error e) : ∃ s reason, e = .unreadableDate s reason := by
  unfold Value.coerce at h
  by_cases htype : type = .boolean
  · rw [if_pos htype] at h
    cases h
  · rw [if_neg htype] at h
    cases value with
    | text s => exact ⟨s, _, (datedText_default_error.mp h).2.2⟩
    | _ => cases h

/-- Unreadable dates are refused, unless the field is boolean, and nothing else is. -/
theorem coerce_default_isOk_iff (value : Value) (type : FieldType) :
    (∃ read, value.coerce type .default = .ok read) ↔
      ¬ (type ≠ .boolean ∧ value.IsUnreadableDate) := by
  rw [← failure?_eq_none]
  unfold Value.coerce
  by_cases htype : type = .boolean
  · simp [htype, failure?]
  · rw [if_neg htype, and_iff_right htype, ← not_iff_not, not_not]
    cases value with
    | text s =>
      have herror : failure? (Value.datedText .default s) ≠ none ↔
          looksLikeDate s = true ∧ readMoment? s = none := by
        rw [Option.ne_none_iff_exists']
        simp [failure?_eq_some, datedText_default_error]
      simpa [Value.IsUnreadableDate] using herror
    | _ => simp [failure?, Value.IsUnreadableDate]

/-! ## Writing what has been read -/

/-- Integers that have been read can be written. -/
theorem writable_of_integers {value read : Value} (h : value.integers = .ok read)
    (hvalue : Json.Writable value) : Json.Writable read := by
  rcases integers_ok h with rfl | ⟨items, hitems, hread⟩
  · exact hvalue
  · have hall : ∀ item ∈ items, Json.Writable item := by
      cases hvalue with
      | list hmem | tuple hmem =>
        cases hitems
        exact hmem
      | _ => cases hitems
    rcases hread with ⟨_, rfl⟩ | ⟨htexts, numbers, hnumbers, rfl⟩
    · exact .list hall
    · refine .list ?_
      rw [List.forall_mem_map]
      intro n hn
      obtain ⟨item, hitem, hread⟩ := exists_of_mem_right (mapM_eq_ok hnumbers) hn
      obtain ⟨s, _, _, hs⟩ := toInteger_of_isIntegerText (List.all_eq_true.mp htexts item hitem)
      exact .int (Number.length_numeral_of_readInteger (hs ▸ hread))

/-- What has been read for a field can be written. -/
theorem writable_of_coerce_default {value read : Value} {type : FieldType}
    (h : value.coerce type .default = .ok read) (hvalue : Json.Writable value) :
    Json.Writable read := by
  rcases coerce_default_ok h with rfl | ⟨b, rfl⟩ | ⟨t, rfl⟩ | ⟨d, rfl⟩
  · exact hvalue
  · exact .bool b
  · exact .datetime t
  · exact .date d

/-! ## Values that are not blank -/

/-- Integers that have been read are not blank. -/
theorem isBlank_of_integers {value read : Value} (h : value.integers = .ok read)
    (hvalue : value.isBlank = false) : read.isBlank = false := by
  rcases integers_ok h with rfl | ⟨items, hitems, hread⟩
  · exact hvalue
  · have hne : items ≠ [] := by
      cases value with
      | list | tuple =>
        cases hitems
        exact fun hnil => by simp [Value.isBlank, hnil] at hvalue
      | _ => cases hitems
    rcases hread with ⟨_, rfl⟩ | ⟨_, numbers, hnumbers, rfl⟩
    · simp [Value.isBlank, hne]
    · have hlength := (mapM_eq_ok hnumbers).length_eq
      cases numbers with
      | nil => exact absurd (List.eq_nil_of_length_eq_zero hlength) hne
      | cons => rfl

/-- What has been read for a field is not blank. -/
theorem isBlank_of_coerce_default {value read : Value} {type : FieldType}
    (h : value.coerce type .default = .ok read) (hvalue : value.isBlank = false) :
    read.isBlank = false := by
  rcases coerce_default_ok h with rfl | ⟨b, rfl⟩ | ⟨t, rfl⟩ | ⟨d, rfl⟩
  · exact hvalue
  · rfl
  · rfl
  · rfl

end SearchFilter
