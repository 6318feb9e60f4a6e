import SearchFilter.Proofs.Entries
import SearchFilter.Proofs.Json.ReadBack
import SearchFilter.Proofs.Json.Writable

/-!
# Maps with text keys

JSON objects are maps whose keys are texts, and `Value.record` builds them.  Looking up, putting,
writing and reading again a record are these operations on its fields, where keys are compared as
texts: `field?_textEntries`, `put_textEntries`, `failure?_render_record` and `reread_record`.
-/

namespace SearchFilter

/-! ## Fields -/

namespace Value

variable (fields : List (String × Value))

/-- The entries of a map with text keys. -/
def textEntries : List (Value × Value) :=
  fields.map fun field => (text field.1, field.2)

theorem text_beq_text (s t : String) : (text s == text t) = (s == t) :=
  rfl

/-- A key is a text if it has that text, on either side. -/
theorem beq_text (key : Value) (name : String) : (key == text name) = (key.text? == some name) := by
  cases key <;> rfl

theorem text_beq (name : String) (key : Value) : (text name == key) = (key.text? == some name) := by
  cases key with
  | text s => exact BEq.comm (a := name)
  | fieldType kind => exact BEq.comm (a := name)
  | _ => rfl

theorem field?_put_self (name : String) (value : Value) (entries : List (Value × Value)) :
    field? name (Entries.put (text name) value entries) = some value := by
  induction entries with
  | nil => rw [Entries.put, field?, List.lookup_cons, text_beq_text, beq_self_eq_true]
  | cons entry rest ih =>
    obtain ⟨key, old⟩ := entry
    rw [Entries.put, beq_text, field?]
    split
    · next heq => rw [List.lookup_cons, text_beq, heq]
    · next hne =>
      rw [List.lookup_cons, text_beq, Bool.eq_false_iff.mpr hne]
      exact ih

theorem field?_put_of_ne {name other : String} (h : other ≠ name) (value : Value)
    (entries : List (Value × Value)) :
    field? other (Entries.put (text name) value entries) = field? other entries := by
  have hne : (other == name) = false := beq_eq_false_iff_ne.mpr h
  induction entries with
  | nil =>
    rw [Entries.put, field?, List.lookup_cons, text_beq_text, hne]
    rfl
  | cons entry rest ih =>
    obtain ⟨key, old⟩ := entry
    rw [field?, field?] at *
    rw [Entries.put, beq_text]
    split
    · next heq =>
      have hkey : (key.text? == some other) = false := by
        rw [eq_of_beq heq]
        exact beq_eq_false_iff_ne.mpr fun h' => h (Option.some.inj h').symm
      rw [List.lookup_cons, List.lookup_cons, text_beq, hkey]
    · rw [List.lookup_cons, List.lookup_cons, ih]

theorem field?_textEntries (name : String) :
    field? name (textEntries fields) = fields.lookup name := by
  induction fields with
  | nil => rfl
  | cons field rest ih =>
    rw [field?, textEntries] at *
    rw [List.map_cons, List.lookup_cons, List.lookup_cons, ih, text_beq_text]

theorem put_textEntries (name : String) (value : Value) :
    Entries.put (text name) value (textEntries fields) =
      textEntries (Entries.put name value fields) := by
  induction fields with
  | nil => rfl
  | cons field rest ih =>
    rw [textEntries] at ih
    rw [textEntries, List.map_cons, Entries.put, Entries.put, text_beq_text, ih]
    split <;> rfl

theorem putAll_textEntries (more : List (String × Value)) :
    Entries.putAll (textEntries fields) (textEntries more) =
      textEntries (Entries.putAll fields more) := by
  induction more generalizing fields with
  | nil => rfl
  | cons field rest ih =>
    have hmore : textEntries (field :: rest) = (text field.1, field.2) :: textEntries rest := rfl
    rw [hmore, Entries.putAll, List.foldl_cons, put_textEntries]
    exact ih _

end Value

/-! ## Writing -/

namespace Json

open Value (textEntries)

variable {fields : List (String × Value)} {layout : Layout}

/-- A record fails to be written as the first of its fields that does. -/
theorem failure?_render_record :
    failure? (render layout (.record fields)) =
      fields.findSome? fun field => failure? (renderAt layout 1 field.2) := by
  have hentries : failure? (renderEntries layout 1 (textEntries fields)) =
      fields.findSome? fun field => failure? (renderAt layout 1 field.2) := by
    induction fields with
    | nil => rfl
    | cons field rest ih =>
      rw [textEntries, List.map_cons, renderEntries, ← textEntries, keyText, List.findSome?_cons,
        ← ih]
      cases renderAt layout 1 field.2 with
      | error e => rfl
      | ok text => cases renderEntries layout 1 (textEntries rest) <;> rfl
  rw [render, Value.record, renderAt, failure?_map, ← textEntries, hentries]

/-- A record can be written if all its fields can. -/
theorem exists_render_record_iff :
    (∃ text, render layout (.record fields) = .ok text) ↔
      ∀ field ∈ fields, ∃ text, renderAt layout 1 field.2 = .ok text := by
  rw [← failure?_eq_none, failure?_render_record, List.findSome?_eq_none_iff]
  simp only [failure?_eq_none]

theorem inFormat_record : (Value.record fields).inFormat = true ↔
    ∀ field ∈ fields, field.2.inFormat = true := by
  rw [Value.record, Value.inFormat]
  induction fields with
  | nil => simp [Value.entriesInFormat]
  | cons field rest ih =>
    rw [List.map_cons, Value.entriesInFormat, Bool.and_eq_true, ih, List.forall_mem_cons]

/-- The doubles of a writable value belong to the format. -/
theorem Writable.inFormat {value : Value} (h : Writable value) : value.inFormat = true := by
  have hlist : ∀ items : List Value, (∀ item ∈ items, item.inFormat = true) →
      Value.allInFormat items = true := by
    intro items hitems
    induction items with
    | nil => rfl
    | cons item rest ih =>
      obtain ⟨hfirst, hrest⟩ := List.forall_mem_cons.mp hitems
      rw [Value.allInFormat, hfirst, ih hrest]
      rfl
  have hmap : ∀ entries : List (Value × Value), (∀ entry ∈ entries, entry.2.inFormat = true) →
      Value.entriesInFormat entries = true := by
    intro entries hentries
    induction entries with
    | nil => rfl
    | cons entry rest ih =>
      obtain ⟨hfirst, hrest⟩ := List.forall_mem_cons.mp hentries
      rw [Value.entriesInFormat, hfirst, ih hrest]
      rfl
  induction h with
  | float hformat => exact hformat
  | list _ ih | tuple _ ih => exact hlist _ ih
  | map _ _ ih => exact hmap _ ih
  | _ => rfl

/-! ## Reading again -/

theorem rereadEntries_textEntries (fields : List (String × Value)) :
    rereadEntries (textEntries fields) =
      textEntries (fields.map fun field => (field.1, reread field.2)) := by
  induction fields with
  | nil => rfl
  | cons field rest ih =>
    rw [textEntries] at ih
    rw [textEntries, List.map_cons, rereadEntries, ih]
    rfl

/-- The fields of a record with different keys are read again one by one. -/
theorem reread_record (hdistinct : (fields.map Prod.fst).Nodup) :
    reread (.record fields) = .record (fields.map fun field => (field.1, reread field.2)) := by
  have hdistinct' : ((fields.map fun field => (field.1, reread field.2)).map Prod.fst).Nodup := by
    rwa [List.map_map]
  have hputAll := Value.putAll_textEntries [] (fields.map fun field => (field.1, reread field.2))
  change Entries.ofPairs _ = textEntries (Entries.ofPairs _) at hputAll
  rw [Value.record, reread, ← textEntries, rereadEntries_textEntries, Value.mapOf, hputAll,
    Entries.ofPairs_of_nodup hdistinct']
  rfl

end Json

end SearchFilter
