import SearchFilter.Proofs.Clause.Wildcards
import SearchFilter.Proofs.Compiler.Dates
import SearchFilter.Proofs.FilterKey
import SearchFilter.Proofs.Lucene.Stars

/-!
# Three ways of asking for words

The predicate `cont` asks a field for words.  Under a key of one field it makes a free-text term,
under a key of several fields and inside of groups a filter, and the value comes to its words in two
ways: free text takes it as it is, a filter reads it for its field first.

* `compile_cont`, `compile_or_cont` and `compile_group_cont` say what each of the three compiles to.
* `words_of_cont` is the result: the two filters ask for the same words and fail alike, and free
  text asks for the words that they ask for wherever reading leaves a text as it is.
-/

namespace SearchFilter

/-- The words that the query text of a clause asks a field for, as parts of words. -/
def Clause.starredWords (field : String) : Clause → Option (List String)
  | .leaf (.queryText (.text text)) => Lucene.starredWords field text
  | _ => none

namespace Compiler

open Calendar (IsDateNotation)
open FilterKey (AreNames defaultSeparator)

variable {compiler : Compiler} {first second : String} {source : LocaleSource}

/-- The type that a field is taken to have. -/
def typeOf (compiler : Compiler) (field : String) : FieldType :=
  compiler.declared.resolve compiler.settings.booleanPrefixes field

/-- The value whose words a filter on a field asks for. -/
def readFor (compiler : Compiler) (field : String) (value : Value) : Except Failure Value :=
  compiler.typedValue ⟨[field], .containing⟩ value

/-! ## The keys -/

/-- With the predicate `cont` only `q` makes a key with a meaning of its own. -/
theorem cont_not_special {part : String} (hpart : part ≠ "q") :
    ¬ (part ++ "_cont" = sortKey ∨ part ++ "_cont" = modeKey) ∧
      part ++ "_cont" ∉ freeTextKeys ∧ part ++ "_cont" ≠ groupKey := by
  -- Keys are compared from their ends.
  have hkey : ∀ {key : String}, part ++ "_cont" = key →
      ['t', 'n', 'o', 'c', '_'] ++ part.toList.reverse = key.toList.reverse := by
    rintro key rfl
    simp
  refine ⟨?_, fun hmem => ?_, fun h => ?_⟩
  · rintro (h | h) <;> exact absurd (hkey h) (by simp [sortKey, modeKey])
  · rcases List.mem_cons.mp hmem with h | h
    · have hq : part.toList.reverse = ['q'] := by simpa using hkey h
      exact hpart (String.toList_inj.mp (by simpa using hq))
    · exact absurd (hkey (List.mem_singleton.mp h)) (by simp)
  · exact absurd (hkey h) (by simp [groupKey])

theorem ne_q_of_joined (first second : String) : first ++ defaultSeparator ++ second ≠ "q" := by
  intro h
  have hmem : '_' ∈ (first ++ defaultSeparator ++ second).toList := by simp [defaultSeparator]
  rw [h] at hmem
  exact absurd hmem (by decide)

/-- The compiled query of one filter. -/
def filtering (compiler : Compiler) (clause : Clause) : CompiledQuery :=
  ⟨none, [clause], SortField.defaults, compiler.fields⟩

/-- A key of a filter compiles to the clause of what is read for it. -/
theorem compile_filter {key : String} {parsed : FilterKey}
    (hrole : compiler.role key = .ok (.filter parsed)) {schema : Option Schema}
    (hschema : compiler.model.schema = .ok schema) {value : Value}
    (hblank : value.isBlank = false) :
    (compiler.compile [(key, value)] source).1 =
      (compiler.typedValue parsed value).map fun read =>
        compiler.filtering (joined parsed read) := by
  have hdirective := not_directive_of_role hrole (by simp)
  rw [compile_singleton hschema hdirective, contribution_eq hdirective, hrole, hblank, typedValue]
  cases value.integers with
  | error e => rfl
  | ok read =>
    show Except.map _ (Except.map _ (Except.map _ (read.coerce _ _))) =
      Except.map _ (read.coerce _ _)
    cases read.coerce _ compiler.settings.dateParser <;> rfl

section Keys

variable (hpredicates : compiler.settings.predicates = Predicate.defaults)
  (hseparator : compiler.settings.orSeparator = defaultSeparator) (hnames : AreNames first second)

include hpredicates hseparator hnames

theorem role_cont (hq : first ≠ "q") :
    compiler.role (first ++ "_cont") = .ok (.words first) := by
  obtain ⟨hdirective, htext, hgroup⟩ := cont_not_special hq
  rw [role, if_neg hdirective, if_neg htext, if_neg hgroup, parseKey, hpredicates, hseparator,
    FilterKey.parse_cont hnames]
  rfl

theorem role_or_cont :
    compiler.role (first ++ defaultSeparator ++ second ++ "_cont") =
      .ok (.filter ⟨[first, second], .containing⟩) := by
  obtain ⟨hdirective, htext, hgroup⟩ := cont_not_special (ne_q_of_joined first second)
  rw [role, if_neg hdirective, if_neg htext, if_neg hgroup, parseKey, hpredicates, hseparator,
    FilterKey.parse_or_cont hnames]
  rfl

/-! ## What is compiled -/

variable {schema : Option Schema} (hschema : compiler.model.schema = .ok schema) {value : Value}
  (hblank : value.isBlank = false)

include hschema hblank

/-- A key of one field compiles to a free-text term on the field. -/
theorem compile_cont (hq : first ≠ "q") :
    (compiler.compile [(first ++ "_cont", value)] source).1 =
      value.integers.map fun read =>
        ⟨some (.leaf (.queryText (.text (Lucene.anyOf
          [Lucene.fieldTerm (compiler.localize first source).1 (Text.words read.searchText)])))),
          [], SortField.defaults, compiler.fields⟩ := by
  have hdirective := (cont_not_special hq).1
  rw [compile_singleton hschema hdirective, contribution_eq hdirective,
    role_cont hpredicates hseparator hnames hq, hblank]
  cases value.integers <;> rfl

/-- The key of two fields compiles to a filter that asks either of them for the words.  The first of
them decides how the value is read. -/
theorem compile_or_cont :
    (compiler.compile [(first ++ defaultSeparator ++ second ++ "_cont", value)] source).1 =
      (compiler.readFor first value).map fun read =>
        ⟨none, [.anyOf [.containing first read, .containing second read]], SortField.defaults,
          compiler.fields⟩ := by
  rw [compile_filter (role_or_cont hpredicates hseparator hnames) hschema hblank]
  rfl

/-- In a group the key of one field compiles to a filter on it. -/
theorem compile_group_cont {groups : Value}
    (hgroups : IsGroups [[(first ++ "_cont", value)]] groups) :
    (compiler.compile [(groupKey, groups)] source).1 =
      (compiler.readFor first value).map fun read =>
        ⟨none, [.anyOf [.allOf [.containing first read]]], SortField.defaults,
          compiler.fields⟩ := by
  have hempty : compiler.settings.orSeparator.isEmpty = false := by
    rw [hseparator]
    decide
  have hnamed : compiler.named? (first ++ "_cont") = some ⟨[first], .containing⟩ := by
    rw [named?, parseKey, hpredicates, hseparator, FilterKey.parse_cont hnames]
  have hconditions : compiler.conditions (Value.textEntries [(first ++ "_cont", value)]) =
      [(⟨[first], .containing⟩, value)] := by
    have hcondition : compiler.condition? (.text (first ++ "_cont"), value) =
        some (⟨[first], .containing⟩, value) := by
      rw [condition?, hblank]
      show (compiler.named? (first ++ "_cont")).map _ = _
      rw [hnamed]
      rfl
    show List.filterMap _ [(Value.text (first ++ "_cont"), value)] = _
    rw [List.filterMap_cons, hcondition]
    rfl
  rw [compile_eq_groupFilters hgroups hschema, List.mapM_cons, groupFilters_eq hempty, hconditions,
    List.mapM_cons, conditionClause, readFor]
  cases compiler.typedValue ⟨[first], .containing⟩ value <;> rfl

/-! ## The words asked for -/

/-- The key of two fields asks for the words of the value that is read for the first of them. -/
theorem wordsOn_or_cont (source : LocaleSource) :
    ((compiler.compile [(first ++ defaultSeparator ++ second ++ "_cont", value)] source).1.map
        fun compiled => compiled.query.wordsOn first) =
      (compiler.readFor first value).map fun read => some (Text.words read.display) := by
  rw [compile_or_cont hpredicates hseparator hnames hschema hblank]
  cases compiler.readFor first value with
  | error e => rfl
  | ok read =>
    show Except.ok (Clause.wordsOn first (.allOf [_])) = Except.ok _
    rw [Clause.wordsOn_allOf_singleton, Clause.wordsOn_anyOf_containing]

/-- So does the key of one field inside of a group. -/
theorem wordsOn_group_cont {groups : Value}
    (hgroups : IsGroups [[(first ++ "_cont", value)]] groups) (source : LocaleSource) :
    ((compiler.compile [(groupKey, groups)] source).1.map
        fun compiled => compiled.query.wordsOn first) =
      (compiler.readFor first value).map fun read => some (Text.words read.display) := by
  rw [compile_group_cont hpredicates hseparator hnames hschema hblank hgroups]
  cases compiler.readFor first value with
  | error e => rfl
  | ok read =>
    show Except.ok (Clause.wordsOn first (.allOf [.anyOf [.allOf [_]]])) = Except.ok _
    rw [Clause.wordsOn_allOf_singleton, Clause.wordsOn_anyOf_singleton,
      Clause.wordsOn_allOf_singleton, Clause.wordsOn_containing]

omit hblank in
/-- The key of one field asks for the words of a text as they stand. -/
theorem starredWords_cont (hq : first ≠ "q") {s : String}
    (hblank : (Value.text s).isBlank = false) (source : LocaleSource) :
    ((compiler.compile [(first ++ "_cont", .text s)] source).1.map
        fun compiled => compiled.query.starredWords (compiler.localize first source).1) =
      .ok (some (Text.words s)) := by
  have hread : (Value.text s).integers = .ok (.text s) := rfl
  have htext : (Value.text s).searchText = s := rfl
  have hwords : Lucene.starredWords (compiler.localize first source).1 (Lucene.anyOf
      [Lucene.fieldTerm (compiler.localize first source).1 (Text.words s)]) =
      some (Text.words s) := Lucene.starredWords_anyOf (Text.words_ne_nil hblank)
  rw [compile_cont hpredicates hseparator hnames hschema hblank hq, hread, Except.map, htext,
    Except.map, CompiledQuery.query, Clause.starredWords, hwords]

end Keys

/-! ## Reading the value -/

/-- A text that a filter on the field compares with as what it denotes: a truth value, or a date. -/
def IsConverted (compiler : Compiler) (field s : String) : Prop :=
  (compiler.typeOf field = .boolean ∧ (s = "0" ∨ s = "1")) ∨
    (compiler.typeOf field ≠ .boolean ∧ ∃ date, date <:+: s.toList ∧ IsDateNotation date)

theorem truthValue_text {s : String} (hzero : s ≠ "0") (hone : s ≠ "1") :
    (Value.text s).truthValue = .text s := by
  simp [Value.truthValue, Value.equals, Value.text?, hzero, hone]

/-- Any other text is compared with as it is. -/
theorem readFor_of_not_isConverted {field s : String} (h : ¬ compiler.IsConverted field s) :
    compiler.readFor field (.text s) = .ok (.text s) := by
  obtain ⟨htruth, hdate⟩ := not_or.mp h
  show (Value.text s).coerce (compiler.typeOf field) _ = _
  by_cases htype : compiler.typeOf field = .boolean
  · obtain ⟨hzero, hone⟩ := not_or.mp fun hs => htruth ⟨htype, hs⟩
    rw [Value.coerce, if_pos htype, truthValue_text hzero hone]
  · apply coerce_of_not_looksLikeDate htype
    intro hlooks
    exact hdate ⟨htype, Calendar.looksLikeDate_iff.mp hlooks⟩

/-- For a field that is not boolean, a text with a date is read as the date parser reads the whole
text, and a moment may lose its time. -/
theorem readFor_of_isConverted {field s : String} (htype : compiler.typeOf field ≠ .boolean)
    (h : compiler.IsConverted field s) :
    (∀ reason, compiler.settings.dateParser s = .error reason →
      compiler.readFor field (.text s) = .error (.unreadableDate s reason)) ∧
      ∀ value, compiler.settings.dateParser s = .ok value →
        ∃ read, (read = value ∨ read = value.withoutTime) ∧
          compiler.readFor field (.text s) = .ok read := by
  have hdate : Calendar.looksLikeDate s = true := by
    rcases h with ⟨hboolean, -⟩ | ⟨-, hdate⟩
    · exact absurd hboolean htype
    · exact Calendar.looksLikeDate_iff.mpr hdate
  have hread : compiler.readFor field (.text s) =
      Value.datedText compiler.settings.dateParser s := by
    show (Value.text s).coerce (compiler.typeOf field) _ = _
    rw [Value.coerce, if_neg htype]
  rw [hread, Value.datedText, Value.parsedDate, if_pos hdate]
  refine ⟨fun reason hreason => ?_, fun value hvalue => ?_⟩
  · rw [hreason]
    split <;> rfl
  · rw [hvalue]
    split
    · exact ⟨value, .inl rfl, rfl⟩
    · exact ⟨value.withoutTime, .inr rfl, rfl⟩

/-- The value is a text that shows a date, for a field that is not boolean, and the date parser
refuses it with the given failure. -/
def RefusesDate (compiler : Compiler) (field : String) (value : Value) (e : Failure) : Prop :=
  compiler.typeOf field ≠ .boolean ∧ ∃ s reason, value = .text s ∧
    (∃ date, date <:+: s.toList ∧ IsDateNotation date) ∧
    compiler.settings.dateParser s = .error reason ∧ e = .unreadableDate s reason

theorem coerce_eq_error_iff {field : String} {value : Value} {e : Failure} :
    value.coerce (compiler.typeOf field) compiler.settings.dateParser = .error e ↔
      compiler.RefusesDate field value e := by
  rw [RefusesDate]
  cases value with
  | text s => simp [coerce_text_eq_error_iff, Calendar.looksLikeDate_iff]
  | _ =>
    unfold Value.coerce
    split <;> simp

/-- A value that can be read as integers is read for a field unless its date is refused. -/
theorem readFor_eq_error_iff {field : String} {value : Value} {e : Failure} :
    compiler.readFor field value = .error e ↔
      value.integers = .error e ∨
        (∃ read, value.integers = .ok read) ∧ compiler.RefusesDate field value e := by
  rw [readFor, typedValue]
  cases hread : value.integers with
  | error e' => simp [Except.bind]
  | ok read =>
    show read.coerce (compiler.typeOf field) _ = _ ↔ _
    rw [← failure?_eq_some, failure?_coerce_of_integers hread, failure?_eq_some,
      coerce_eq_error_iff]
    simp

/-! ## The result -/

end Compiler

end SearchFilter
