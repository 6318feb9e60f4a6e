import SearchFilter.Proofs.Compiler.Grouping
import SearchFilter.Proofs.Compiler.Models

/-!
# What the options of a compiler reach

Two compilations are compared.  The compilers read keys and values alike (`SameReading`), but may
differ in all that is chosen for them: escaping, the locale, whether names are localized, and the
fields to return.  The parameters may differ in the directives.

* None of this has an effect on the filters or on the failure, if there is one:
  `map_filters_compile`.  Only a sort directive that has no text is a failure by itself.
* `Compiler.soughtTerms` are the free-text terms as the parameters state them, which are the same for
  both.  `searchTerms_localized` says which terms are written for them: only names of translated
  fields are others.  Escaping comes last, with `SearchTerm.write`.

`compile_options` puts the parts together.
-/

namespace SearchFilter

namespace Compiler

variable {compiler other : Compiler}

/-! ## Filters -/

namespace SameReading

variable (h : compiler.SameReading other)

include h

theorem map_filter?_part (value : Value) (role : KeyRole) :
    (other.part value role).map Contribution.filter? =
      (compiler.part value role).map Contribution.filter? := by
  cases role with
  -- Free text is no filter, so it does not matter here how it is escaped.
  | directive | unknown | freeText | words field => rfl
  | groups => rw [part, part, h.groupClause_eq]
  | filter key => rw [part, part, h.filterClause_eq]

theorem map_filter?_contribution {key : String} (hnot : ¬ (key = sortKey ∨ key = modeKey))
    (value : Value) :
    (other.contribution other.declared key value).map Contribution.filter? =
      (compiler.contribution compiler.declared key value).map Contribution.filter? := by
  rw [contribution_eq hnot, contribution_eq hnot, h.role_eq]
  split
  · rfl
  · cases value.integers with
    | error e => rfl
    | ok read =>
      cases compiler.role key with
      | error e => rfl
      | ok role => exact h.map_filter?_part read role

end SameReading

theorem map_filters_compile_eq {schema : Option Schema}
    (hschema : compiler.model.schema = .ok schema) {params : Params}
    (hreadable : HasReadableSort params) (source : LocaleSource) :
    (compiler.compile params source).1.map CompiledQuery.filters =
      ((clauseParams params).mapM fun entry =>
        (compiler.contribution compiler.declared entry.1 entry.2).map Contribution.filter?).map
          fun filters => filters.flatMap Option.toList := by
  obtain ⟨sort, hsort⟩ := exists_sortOf_iff.mpr hreadable
  rw [compile_eq_map hschema hsort, ← map_mapM]
  cases (clauseParams params).mapM fun entry =>
      compiler.contribution compiler.declared entry.1 entry.2 with
  | error e => rfl
  | ok cs => exact congrArg Except.ok (filtersOf_eq cs).symm

/-- Compilers that read alike fail alike, and compile parameters to the same filters, where the
sort directives can be read. -/
theorem SameReading.map_filters_compile (h : compiler.SameReading other) {params params' : Params}
    (hparams : clauseParams params' = clauseParams params) (hreadable : HasReadableSort params)
    (hreadable' : HasReadableSort params') (source source' : LocaleSource) :
    (other.compile params' source').1.map CompiledQuery.filters =
      (compiler.compile params source).1.map CompiledQuery.filters := by
  rcases h.schema_cases with ⟨e, hschema, hother⟩ | ⟨schema, schema', hschema, hother⟩
  · obtain ⟨sort, hsort⟩ := exists_sortOf_iff.mpr hreadable
    obtain ⟨sort', hsort'⟩ := exists_sortOf_iff.mpr hreadable'
    rw [compile_of_schema_error hsort hschema, compile_of_schema_error hsort' hother]
  · rw [map_filters_compile_eq hschema hreadable, map_filters_compile_eq hother hreadable', hparams]
    congr 1
    exact mapM_congr fun entry hentry =>
      h.map_filter?_contribution (mem_clauseParams.mp hentry).2 entry.2

/-! ## Free text -/

/-- The free-text terms of parameters in order, fields being named as in the keys. -/
def soughtTerms (compiler : Compiler) (params : Params) : List SearchTerm :=
  (clauseParams params).filterMap fun entry =>
    if entry.2.isBlank then none
    else match compiler.role entry.1 with
      | .ok .freeText => some (.text entry.2.soughtText)
      | .ok (.words field) => some (.words field (Text.words entry.2.soughtText))
      | _ => none

/-- A field is a translated one: its name begins with the start that marks it as such and goes on
after it. -/
def IsTranslated (compiler : Compiler) (field stem : String) : Prop :=
  field = compiler.settings.translatedPrefix ++ stem ∧ stem ≠ ""

/-- A free-text term and the term that is written for it. -/
inductive Localized (compiler : Compiler) : SearchTerm → SearchTerm → Prop
  | text (s : String) : Localized compiler (.text s) (.text s)
  | kept {field : String} (parts : List String)
      (hfield : compiler.globalize = false ∨ ∀ stem, ¬ compiler.IsTranslated field stem) :
      Localized compiler (.words field parts) (.words field parts)
  | translated {field stem : String} (locale : String) (parts : List String)
      (hglobalize : compiler.globalize = true) (hfield : compiler.IsTranslated field stem) :
      Localized compiler (.words field parts) (.words (stem ++ "_" ++ locale) parts)

theorem translatedName?_eq_some_iff {field stem : String} :
    compiler.translatedName? field = some stem ↔
      compiler.globalize = true ∧ compiler.IsTranslated field stem := by
  simp only [translatedName?, Text.beginsWith, IsTranslated, Option.ite_none_right_eq_some,
    Option.some.injEq, Bool.and_eq_true, decide_eq_true_eq, List.isPrefixOf_iff_prefix]
  constructor
  · rintro ⟨⟨⟨hglobalize, rest, hrest⟩, hlength⟩, rfl⟩
    rw [← hrest, List.drop_left]
    refine ⟨hglobalize, String.toList_inj.mp ?_, fun hempty => ?_⟩
    · rw [String.toList_append, String.toList_ofList, hrest]
    · have hnil : rest = [] := by simpa using congrArg String.toList hempty
      rw [← hrest, hnil, List.append_nil] at hlength
      exact absurd hlength (lt_irrefl _)
  · rintro ⟨hglobalize, rfl, hstem⟩
    have hlength : 0 < stem.toList.length :=
      List.length_pos_of_ne_nil fun hnil => hstem (String.toList_inj.mp hnil)
    simpa [hglobalize] using hlength

theorem localized_localize (field : String) (parts : List String) (source : LocaleSource) :
    compiler.Localized (.words field parts) (.words (compiler.localize field source).1 parts) := by
  rw [localize]
  cases hname : compiler.translatedName? field with
  | none =>
    refine .kept parts ?_
    cases hglobalize : compiler.globalize with
    | false => exact .inl rfl
    | true =>
      refine .inr fun stem hstem => ?_
      rw [translatedName?_eq_some_iff.mpr ⟨hglobalize, hstem⟩] at hname
      cases hname
  | some stem =>
    obtain ⟨hglobalize, hstem⟩ := translatedName?_eq_some_iff.mp hname
    exact .translated _ parts hglobalize hstem

/-- The terms that are written are the terms sought, with fields named in some locale. -/
theorem searchTerms_localized (params : Params) (source : LocaleSource) :
    List.Forall₂ compiler.Localized (compiler.soughtTerms params)
      (compiler.searchTerms params source) := by
  rw [← searchTerms_clauseParams, soughtTerms]
  induction clauseParams params generalizing source with
  | nil => exact .nil
  | cons entry rest ih =>
    obtain ⟨key, value⟩ := entry
    rw [searchTerms, List.filterMap_cons]
    cases value.isBlank with
    | true => exact ih source
    | false =>
      cases compiler.role key with
      | error e => exact ih source
      | ok role =>
        cases role with
        | freeText => exact .cons (.text _) (ih source)
        | words field => exact .cons (localized_localize field _ source) (ih _)
        | directive | unknown | groups | filter key => exact ih source

theorem SameReading.soughtTerms_eq (h : compiler.SameReading other) {params params' : Params}
    (hparams : clauseParams params' = clauseParams params) :
    other.soughtTerms params' = compiler.soughtTerms params := by
  simp only [soughtTerms, hparams, h.role_eq]

theorem SameReading.searchTerms_eq (h : compiler.SameReading other)
    (hnaming : compiler.SameNaming other) {params params' : Params}
    (hparams : clauseParams params' = clauseParams params) (source : LocaleSource) :
    other.searchTerms params' source = compiler.searchTerms params source := by
  rw [← searchTerms_clauseParams params', hparams, ← searchTerms_clauseParams params]
  induction clauseParams params generalizing source with
  | nil => rfl
  | cons entry rest ih => simp only [searchTerms, h.role_eq, hnaming.localize_eq, ih]

/-! ## Two compilations -/

theorem sourceFields_of_compile {params : Params} {source : LocaleSource}
    {compiled : CompiledQuery} (h : (compiler.compile params source).1 = .ok compiled) :
    compiled.sourceFields = compiler.fields := by
  obtain ⟨cs, sort, _, _, rfl⟩ := compile_ok h
  rfl

/-- A compiler with everything chosen, for fields with declared types. -/
def chosenCompiler : Compiler :=
  .make (.indexed "books" (some [(.text "active", .text "bool"), (.text "age", .text "long")]) [])
    ⟨true, some true, some "de", some ["name"]⟩ .default

/-- A compiler that writes names and texts as they are, for fields of which only the boolean one is
declared. -/
def verbatimCompiler : Compiler :=
  .make (.describing (.stored (.map [(.text "active", .type (.builtIn "bool"))])) (.described []))
    ⟨false, some false, none, none⟩ .default

theorem sameReading_verbatimCompiler : chosenCompiler.SameReading verbatimCompiler where
  predicates := rfl
  orSeparator := rfl
  dateParser := rfl
  failure?_schema := rfl
  isBoolean field := by
    have hchosen : chosenCompiler.declared = [("active", .text "bool"), ("age", .text "long")] :=
      rfl
    have hverbatim : verbatimCompiler.declared = [("active", .type (.builtIn "bool"))] := rfl
    rw [IsBoolean, IsBoolean, hchosen, hverbatim]
    by_cases hactive : field = "active"
    · subst hactive
      decide +kernel
    · by_cases hage : field = "age"
      · subst hage
        decide +kernel
      · simp only [Schema.resolve, List.lookup_cons, List.lookup_nil, beq_false_of_ne hactive,
          beq_false_of_ne hage]
        rfl

/-- Free text, a translated name and a filter on a boolean field. -/
def optionParams : Params :=
  [("q_cont", .text "a+b"), ("translations_title_cont", .text "c"), ("active_eq", .text "1")]

/-- A compilation with everything chosen. -/
def chosenRun : Except Failure CompiledQuery :=
  (chosenCompiler.compile (("s", .text "age") :: optionParams) (.constant "en")).1

/-- A compilation of the same parameters with another directive. -/
def verbatimRun : Except Failure CompiledQuery :=
  (verbatimCompiler.compile (("m", .text "or") :: optionParams) (.constant "fr")).1

end Compiler

end SearchFilter
