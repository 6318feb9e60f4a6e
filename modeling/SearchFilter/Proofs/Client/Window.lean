import SearchFilter.Client
import SearchFilter.Proofs.Json.Records
import SearchFilter.Proofs.Number.Numerals

/-!
# The window of a search

A search is sent as the request body with `from` and `size` of its page.  Who reads the text finds
these two numbers there, whatever the body says about them: `exists_parse_window`.
-/

namespace SearchFilter.Client

open SearchFilter.Number
open Value (textEntries field?)

/-- A request body: fields with different names, of which the doubles belong to the format, and
which can be written. -/
structure IsBody (fields : List (String × Value)) : Prop where
  nodup : (fields.map Prod.fst).Nodup
  inFormat : (Value.record fields).inFormat = true
  exists_render : ∃ text, Json.render none (.record fields) = .ok text

/-- The fields of the request body for a page. -/
def windowFields (fields : List (String × Value)) (number perPage : Int) :
    List (String × Value) :=
  Entries.put "size" (.int perPage)
    (Entries.put "from" (.int (perPage * (number - 1))) fields)

variable {fields : List (String × Value)} {number perPage : Int}

theorem window_textEntries (fields : List (String × Value)) (number perPage : Int) :
    window (textEntries fields) number perPage = .record (windowFields fields number perPage) :=
  congrArg Value.map (Value.putAll_textEntries fields
    [("from", .int (perPage * (number - 1))), ("size", .int perPage)])

/-- Only writing the request for a page can fail. -/
theorem searchRequest_record (fields : List (String × Value)) (number perPage : Int) :
    searchRequest (.record fields) (.int number) (.int perPage) =
      (Json.render none (window (textEntries fields) (max number 1) perPage)).bind
        fun text => .ok (text, max number 1, perPage) :=
  rfl

/-- What holds of the window and of the fields of the body holds of the fields for a page. -/
theorem forall_mem_windowFields {p : Value → Prop} (hsize : p (.int perPage))
    (hfrom : p (.int (perPage * (number - 1)))) (hfields : ∀ field ∈ fields, p field.2) :
    ∀ field ∈ windowFields fields number perPage, p field.2 := by
  intro field hfield
  rcases Entries.of_mem_put hfield with rfl | hfield
  · exact hsize
  · rcases Entries.of_mem_put hfield with rfl | hfield
    · exact hfrom
    · exact hfields field hfield

theorem nodup_windowFields (h : (fields.map Prod.fst).Nodup) (number perPage : Int) :
    ((windowFields fields number perPage).map Prod.fst).Nodup :=
  Entries.nodup_put (Entries.nodup_put h _ _) _ _

theorem lookup_windowFields (fields : List (String × Value)) (number perPage : Int) :
    (windowFields fields number perPage).lookup "from" =
        some (.int (perPage * (number - 1))) ∧
      (windowFields fields number perPage).lookup "size" = some (.int perPage) := by
  refine ⟨?_, Entries.lookup_put_self _ _ _⟩
  rw [windowFields, Entries.lookup_put_of_ne (by decide), Entries.lookup_put_self]

/-- The request for a page can be written if the numbers of its window are not too long. -/
theorem exists_render_window_iff (hbody : IsBody fields) :
    (∃ text, Json.render none (window (textEntries fields) number perPage) = .ok text) ↔
      (numeral (perPage * (number - 1)).natAbs).length ≤ digitLimit ∧
        (numeral perPage.natAbs).length ≤ digitLimit := by
  rw [window_textEntries, Json.exists_render_record_iff]
  obtain ⟨hfrom, hsize⟩ := lookup_windowFields fields number perPage
  constructor
  · intro h
    exact ⟨exists_writtenNumeral_iff.mp (h _ (Entries.mem_of_lookup_eq_some hfrom)),
      exists_writtenNumeral_iff.mp (h _ (Entries.mem_of_lookup_eq_some hsize))⟩
  · rintro ⟨hfirst, hcount⟩
    exact forall_mem_windowFields (p := fun value => ∃ text, Json.renderAt none 1 value = .ok text)
      (exists_writtenNumeral_iff.mpr hcount) (exists_writtenNumeral_iff.mpr hfirst)
      (Json.exists_render_record_iff.mp hbody.exists_render)

/-- The request for a page can be written, and who reads it finds the body with the window. -/
theorem exists_parse_windowFields (hbody : IsBody fields) (number perPage : Int)
    (hfrom : (numeral (perPage * (number - 1)).natAbs).length ≤ digitLimit)
    (hsize : (numeral perPage.natAbs).length ≤ digitLimit) :
    ∃ text, Json.render none (window (textEntries fields) number perPage) = .ok text ∧
      Json.parse text = .ok (.record ((windowFields fields number perPage).map fun field =>
        (field.1, Json.reread field.2))) := by
  have hformat : (Value.record (windowFields fields number perPage)).inFormat = true :=
    Json.inFormat_record.mpr
      (forall_mem_windowFields (p := fun value => value.inFormat = true) rfl rfl
        (Json.inFormat_record.mp hbody.inFormat))
  obtain ⟨text, htext⟩ := (exists_render_window_iff hbody).mpr ⟨hfrom, hsize⟩
  rw [window_textEntries] at htext
  have hread := Json.parse_render hformat htext
  rw [Json.reread_record (nodup_windowFields hbody.nodup number perPage)] at hread
  exact ⟨text, by rw [window_textEntries, htext], hread⟩

/-- The window comes after the fields of a body that has none. -/
theorem windowFields_eq_append (hfrom : "from" ∉ fields.map Prod.fst)
    (hsize : "size" ∉ fields.map Prod.fst) (number perPage : Int) :
    windowFields fields number perPage =
      fields ++ [("from", .int (perPage * (number - 1))), ("size", .int perPage)] := by
  have hput : Entries.put "from" (.int (perPage * (number - 1))) fields =
      fields ++ [("from", .int (perPage * (number - 1)))] :=
    Entries.put_of_lookup_eq_none (Entries.lookup_eq_none_of_not_mem hfrom) _
  have hnew : "size" ∉ (fields ++ [("from", Value.int (perPage * (number - 1)))]).map Prod.fst := by
    simpa using hsize
  rw [windowFields, hput,
    Entries.put_of_lookup_eq_none (Entries.lookup_eq_none_of_not_mem hnew), List.append_assoc]
  rfl

/-- A window with a number that is too long cannot be written, and nothing else can fail. -/
theorem render_window_eq_error (hbody : IsBody fields)
    (hlong : ¬ ((numeral (perPage * (number - 1)).natAbs).length ≤ digitLimit ∧
      (numeral perPage.natAbs).length ≤ digitLimit)) :
    Json.render none (window (textEntries fields) number perPage) = .error .integerTooLong := by
  have hinteger : ∀ {n : Int} {e : Failure}, failure? (writtenNumeral n) = some e →
      e = .integerTooLong := by
    intro n e h
    rw [writtenNumeral] at h
    split_ifs at h <;> cases h
    rfl
  cases hrender : Json.render none (window (textEntries fields) number perPage) with
  | ok text => exact absurd ((exists_render_window_iff hbody).mp ⟨text, hrender⟩) hlong
  | error e =>
    rw [window_textEntries, ← failure?_eq_some, Json.failure?_render_record] at hrender
    obtain ⟨field, hfield, hfails⟩ := List.exists_of_findSome?_eq_some hrender
    -- The failure is that of a number of the window: the fields of the body can be written.
    refine congrArg Except.error (forall_mem_windowFields
      (p := fun value => failure? (Json.renderAt none 1 value) = some e → e = .integerTooLong)
      hinteger hinteger (fun field hfield hfails => ?_) field hfield hfails)
    obtain ⟨text, htext⟩ := Json.exists_render_record_iff.mp hbody.exists_render field hfield
    rw [htext] at hfails
    cases hfails

/-- The request for a page can be written, and who reads it finds the window of the page. -/
theorem exists_parse_window (hbody : IsBody fields) (number perPage : Int)
    (hfrom : (numeral (perPage * (number - 1)).natAbs).length ≤ digitLimit)
    (hsize : (numeral perPage.natAbs).length ≤ digitLimit) :
    ∃ text entries, Json.render none (window (textEntries fields) number perPage) = .ok text ∧
      Json.parse text = .ok (.map entries) ∧
      field? "from" entries = some (.int (perPage * (number - 1))) ∧
      field? "size" entries = some (.int perPage) := by
  obtain ⟨text, htext, hread⟩ := exists_parse_windowFields hbody number perPage hfrom hsize
  obtain ⟨hlookup, hlookup'⟩ := lookup_windowFields fields number perPage
  refine ⟨text, _, htext, hread, ?_, ?_⟩
  · rw [← textEntries, Value.field?_textEntries, Entries.lookup_map_snd, hlookup]
    rfl
  · rw [← textEntries, Value.field?_textEntries, Entries.lookup_map_snd, hlookup']
    rfl

end SearchFilter.Client
