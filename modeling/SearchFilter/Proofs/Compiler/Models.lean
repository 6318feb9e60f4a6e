import SearchFilter.Proofs.Compiler.Roles

/-!
# Compilers that read alike

Of a model, the compiler uses only which fields are boolean ones.  Two compilers read keys and
values alike (`SameReading`) if their models agree in this and their settings in predicates,
separator and date parser; nothing else that their models declare has an effect.

The lemmas follow the compiler from the filter of one key to the groups.  If free text is treated
alike as well, compilers that read alike compile alike: `compile_eq`.
-/

namespace SearchFilter.Compiler

/-- A field is read as a boolean one. -/
def IsBoolean (compiler : Compiler) (field : String) : Prop :=
  compiler.declared.resolve compiler.settings.booleanPrefixes field = .boolean

/-- Two compilers read keys and values alike.  Of what their models declare, it matters which fields
are boolean ones, and how the declarations fail if they cannot be read. -/
structure SameReading (compiler other : Compiler) : Prop where
  predicates : other.settings.predicates = compiler.settings.predicates
  orSeparator : other.settings.orSeparator = compiler.settings.orSeparator
  dateParser : other.settings.dateParser = compiler.settings.dateParser
  failure?_schema : failure? other.model.schema = failure? compiler.model.schema
  isBoolean : ∀ field, other.IsBoolean field ↔ compiler.IsBoolean field

/-- Two compilers name the fields of free-text terms alike. -/
structure SameNaming (compiler other : Compiler) : Prop where
  translatedPrefix : other.settings.translatedPrefix = compiler.settings.translatedPrefix
  globalize : other.globalize = compiler.globalize
  locale : other.locale = compiler.locale

variable {compiler other : Compiler}

/-! ## Names -/

namespace SameNaming

variable (h : compiler.SameNaming other)

include h

theorem localize_eq (field : String) (source : LocaleSource) :
    other.localize field source = compiler.localize field source := by
  simp only [localize, translatedName?, nextLocale, h.translatedPrefix, h.globalize, h.locale]

theorem texts_eq (cs : List Contribution) (source : LocaleSource) :
    other.texts cs source = compiler.texts cs source := by
  induction cs generalizing source with
  | nil => rfl
  | cons c rest ih =>
    cases c with
    | nothing | filter clause => exact ih source
    | text term => rw [texts, texts, ih]
    | words field words => simp only [texts, h.localize_eq, ih]

end SameNaming

namespace SameReading

variable (h : compiler.SameReading other)

include h

theorem schema_cases :
    (∃ e, compiler.model.schema = .error e ∧ other.model.schema = .error e) ∨
      ∃ schema schema', compiler.model.schema = .ok schema ∧ other.model.schema = .ok schema' := by
  cases hschema : compiler.model.schema with
  | error e => exact .inl ⟨e, rfl, by rw [← failure?_eq_some, h.failure?_schema, hschema, failure?]⟩
  | ok schema =>
    obtain ⟨schema', hother⟩ : ∃ schema', other.model.schema = .ok schema' := by
      rw [← failure?_eq_none, h.failure?_schema, hschema, failure?]
    exact .inr ⟨schema, schema', rfl, hother⟩

/-! ## Keys and filters -/

theorem parseKey_eq (key : String) : other.parseKey key = compiler.parseKey key := by
  rw [parseKey, parseKey, h.predicates, h.orSeparator]

theorem role_eq (key : String) : other.role key = compiler.role key := by
  rw [role, role, h.parseKey_eq]

/-- Of the type of a field it matters only whether it is a boolean one. -/
theorem filterClause_eq (key : FilterKey) (value : Value) :
    other.filterClause other.declared key value =
      compiler.filterClause compiler.declared key value := by
  have hboolean : other.fieldType other.declared key = .boolean ↔
      compiler.fieldType compiler.declared key = .boolean := h.isBoolean _
  simp only [filterClause, Value.coerce, hboolean, h.dateParser]

/-! ## Groups -/

theorem groupEntry_eq (key : String) (value : Value) :
    other.groupEntry other.declared key value =
      compiler.groupEntry compiler.declared key value := by
  simp only [groupEntry, h.parseKey_eq, h.filterClause_eq]

theorem groupFilters_eq (entries : List (Value × Value)) :
    other.groupFilters other.declared entries =
      compiler.groupFilters compiler.declared entries := by
  induction entries with
  | nil => rfl
  | cons entry rest ih => rw [groupFilters, groupFilters, h.groupEntry_eq, ih]

theorem groupBranches_eq (groups : List Value) :
    other.groupBranches other.declared groups =
      compiler.groupBranches compiler.declared groups := by
  induction groups with
  | nil => rfl
  | cons group rest ih =>
    cases group with
    | map entries => rw [groupBranches, groupBranches, h.groupFilters_eq, ih]
    | _ => exact ih

theorem groupClause_eq (value : Value) :
    other.groupClause other.declared value = compiler.groupClause compiler.declared value := by
  simp only [groupClause, h.groupBranches_eq]

/-! ## Contributions -/

theorem part_eq (hescape : other.escape = compiler.escape) : other.part = compiler.part := by
  funext value role
  cases role with
  | directive | unknown | words field => rfl
  | freeText => rw [part, part, hescape]
  | groups => rw [part, part, h.groupClause_eq]
  | filter key => rw [part, part, h.filterClause_eq]

theorem contributions_eq (hescape : other.escape = compiler.escape) {params : Params}
    (hnot : ∀ entry ∈ params, ¬ (entry.1 = sortKey ∨ entry.1 = modeKey)) :
    other.contributions other.declared params =
      compiler.contributions compiler.declared params := by
  induction params with
  | nil => rfl
  | cons entry rest ih =>
    have hentry : ¬ (entry.1 = sortKey ∨ entry.1 = modeKey) := hnot entry List.mem_cons_self
    have hfirst : other.contribution other.declared entry.1 entry.2 =
        compiler.contribution compiler.declared entry.1 entry.2 := by
      simp only [Compiler.contribution_eq hentry, h.role_eq, h.part_eq hescape]
    rw [contributions, contributions, hfirst,
      ih fun later hlater => hnot later (List.mem_cons_of_mem _ hlater)]

end SameReading

/-! ## Queries -/

/-- Compilers that read keys and values alike, and with which the same is chosen for free text and
for the fields to return, compile alike. -/
theorem SameReading.compile_eq (h : compiler.SameReading other)
    (hnaming : compiler.SameNaming other) (hescape : other.escape = compiler.escape)
    (hfields : other.fields = compiler.fields) (params : Params) (source : LocaleSource) :
    other.compile params source = compiler.compile params source := by
  rw [compile, compile]
  cases sortOf params with
  | error e => rfl
  | ok sort =>
    rcases h.schema_cases with ⟨e, hschema, hother⟩ | ⟨schema, schema', hschema, hother⟩
    · rw [hschema, hother]
    · rw [hschema, hother]
      dsimp only
      rw [← declared_eq hschema, ← declared_eq hother, compileWith, compileWith,
        h.contributions_eq hescape fun entry hentry => (mem_clauseParams.mp hentry).2, hfields]
      simp only [hnaming.texts_eq]

/-- The compiler with another model. -/
def withModel (compiler : Compiler) (model : Model) : Compiler :=
  { compiler with model }

/-- Models that declare the same are compiled with alike. -/
theorem compile_withModel {model : Model} {schema schema' : Option Schema}
    (hschema : compiler.model.schema = .ok schema) (hmodel : model.schema = .ok schema')
    (hsame : schema.getD [] = schema'.getD []) (params : Params) (source : LocaleSource) :
    (compiler.withModel model).compile params source = compiler.compile params source := by
  have hother : (compiler.withModel model).model.schema = .ok schema' := hmodel
  have hreading : compiler.SameReading (compiler.withModel model) := by
    refine ⟨rfl, rfl, rfl, by rw [hschema, hother]; rfl, fun field => ?_⟩
    rw [IsBoolean, IsBoolean, declared_eq hschema, declared_eq hother, hsame]
    rfl
  exact hreading.compile_eq ⟨rfl, rfl, rfl⟩ rfl rfl params source

end SearchFilter.Compiler
