import Mathlib.Data.List.Perm.Basic
import SearchFilter.Proofs.Compiler.Directives
import SearchFilter.Proofs.Compiler.Roles

/-!
# Parameters are compiled apart from each other

What a parameter contributes to a query does not depend on the other parameters.  `Compiler.alone`
compiles one parameter without the others, and `compile_apart` puts a whole compilation together
from such parts: the first part that fails is the failure of the whole, and otherwise filters and
free text are those of the parts, in order.  Taking the parameters in another order only takes the
parts in that order.  The sort directive is read before the other parameters, and a directive that
has no text is the failure of the whole.

A value can be put in the place of another that contributes the same (`compile_replace`).

The locale has to be the same throughout (`GivesOnly`): a source of changing locales gives another
one to a parameter that is asked for later.  `texts_eq_filterMap` is where this is used.
-/

namespace SearchFilter

/-! ## Free text of several texts -/

namespace CompiledQuery

/-- The text of the free-text clause, if there is one. -/
def text? (compiled : CompiledQuery) : Option String :=
  match compiled.freeText with
  | some (.leaf (.queryText (.text text))) => some text
  | _ => none

/-- The free-text clause of several texts, one of which a document has to match. -/
def joinedText : List String → Option Clause
  | [] => none
  | texts => some (.leaf (.queryText (.text (" OR ".intercalate texts))))

end CompiledQuery

namespace Compiler

open CompiledQuery (joinedText)

/-- A term as it stands among other terms. -/
def enclosedTerm (term : String) : String :=
  "(" ++ term ++ ")"

theorem freeTextClause_eq (terms : List String) :
    freeTextClause terms = joinedText (terms.map enclosedTerm) := by
  cases terms <;> rfl

theorem text?_of_term (term : Option String) (filters : List Clause) (sort : List SortField)
    (fields : Option (List String)) :
    CompiledQuery.text? ⟨joinedText (term.toList.map enclosedTerm), filters, sort, fields⟩ =
      term.map enclosedTerm := by
  cases term with
  | none => rfl
  | some term => simp [joinedText, CompiledQuery.text?]

/-! ## One locale -/

/-- Whenever a locale is asked for, it is the given one. -/
def GivesOnly (compiler : Compiler) (locale : String) (source : LocaleSource) : Prop :=
  match compiler.locale with
  | some chosen => chosen = locale
  | none => source.current = locale ∧ ∀ later ∈ source.later, later = locale

/-- The name of a field in a locale. -/
def nameIn (compiler : Compiler) (locale field : String) : String :=
  match compiler.translatedName? field with
  | none => field
  | some name => name ++ "_" ++ locale

/-- The free-text term of a contribution in a locale, if it is one. -/
def termIn (compiler : Compiler) (locale : String) : Contribution → Option String
  | .text term => some term
  | .words field words => some (Lucene.fieldTerm (compiler.nameIn locale field) words)
  | _ => none

variable {compiler : Compiler} {locale : String} {source : LocaleSource}

theorem GivesOnly.nextLocale (h : compiler.GivesOnly locale source) :
    (compiler.nextLocale source).1 = locale ∧
      compiler.GivesOnly locale (compiler.nextLocale source).2 := by
  unfold GivesOnly Compiler.nextLocale at *
  cases hchosen : compiler.locale with
  | some chosen =>
    simp only [hchosen] at h ⊢
    exact ⟨h, h⟩
  | none =>
    simp only [hchosen] at h ⊢
    obtain ⟨hcurrent, hlater⟩ := h
    refine ⟨hcurrent, ?_⟩
    unfold LocaleSource.advance
    cases hrest : source.later with
    | nil => simpa [hrest] using hcurrent
    | cons next rest => simpa [hrest] using hlater

theorem GivesOnly.localize (h : compiler.GivesOnly locale source) (field : String) :
    (compiler.localize field source).1 = compiler.nameIn locale field ∧
      compiler.GivesOnly locale (compiler.localize field source).2 := by
  unfold Compiler.localize nameIn
  cases compiler.translatedName? field with
  | none => exact ⟨rfl, h⟩
  | some name =>
    obtain ⟨hlocale, hnext⟩ := h.nextLocale
    exact ⟨by simp only [hlocale], hnext⟩

/-- With one locale, each contribution is written for itself. -/
theorem texts_eq_filterMap (h : compiler.GivesOnly locale source) (cs : List Contribution) :
    (compiler.texts cs source).1 = cs.filterMap (compiler.termIn locale) := by
  induction cs generalizing source with
  | nil => rfl
  | cons c rest ih =>
    cases c with
    | nothing | filter clause => exact ih h
    | text term => simp only [texts, ih h, List.filterMap_cons, termIn]
    | words field words =>
      obtain ⟨hname, hnext⟩ := h.localize field
      simp only [texts, ih hnext, hname, List.filterMap_cons, termIn]

/-! ## The contributions of all parameters -/

private theorem mapM_contribution (schema : Schema) (params : Params) :
    (params.mapM fun entry => compiler.contribution schema entry.1 entry.2) =
      match (compiler.contributions schema params).2 with
      | some e => .error e
      | none => .ok (compiler.contributions schema params).1 := by
  induction params with
  | nil => rfl
  | cons entry rest ih =>
    obtain ⟨key, value⟩ := entry
    rw [List.mapM_cons, contributions]
    cases compiler.contribution schema key value with
    | error e => rfl
    | ok first =>
      show Except.bind _ _ = _
      rw [ih]
      cases (compiler.contributions schema rest).2 <;> rfl

/-- Compiling reads the contributions of the parameters one by one. -/
theorem compile_eq_map {schema : Option Schema} (hschema : compiler.model.schema = .ok schema)
    {params : Params} {sort : List SortField} (hsort : sortOf params = .ok sort) :
    (compiler.compile params source).1 =
      ((clauseParams params).mapM fun entry =>
        compiler.contribution compiler.declared entry.1 entry.2).map fun cs =>
          ⟨freeTextClause (compiler.texts cs source).1, filtersOf cs, sort, compiler.fields⟩ := by
  have hdeclared : compiler.declared = schema.getD [] := declared_eq hschema
  rw [mapM_contribution, compile, hsort, hschema]
  simp only [compileWith, ← hdeclared]
  cases (compiler.contributions compiler.declared (clauseParams params)).2 <;> rfl

/-! ## One value in the place of another -/

section Replaced

variable {key : String} {value other : Value}

theorem contributions_replace {schema : Schema}
    (h : compiler.contribution schema key value = compiler.contribution schema key other)
    (before after : Params) :
    compiler.contributions schema (before ++ (key, value) :: after) =
      compiler.contributions schema (before ++ (key, other) :: after) := by
  induction before with
  | nil => rw [List.nil_append, List.nil_append, contributions, contributions, h]
  | cons entry rest ih =>
    rw [List.cons_append, List.cons_append, contributions, contributions, ih]

/-- What contributes the same compiles to the same in its place. -/
theorem compile_replace (hnot : ¬ (key = sortKey ∨ key = modeKey))
    (h : compiler.contribution compiler.declared key value =
      compiler.contribution compiler.declared key other) (before after : Params) :
    compiler.compile (before ++ (key, value) :: after) source =
      compiler.compile (before ++ (key, other) :: after) source := by
  have hsort : sortOf (before ++ (key, value) :: after) =
      sortOf (before ++ (key, other) :: after) := by
    have hne : (sortKey == key) = false := beq_eq_false_iff_ne.mpr (Ne.symm (not_or.mp hnot).1)
    rw [sortOf, sortOf, List.lookup_append, List.lookup_append, List.lookup_cons, List.lookup_cons,
      hne]
  rw [compile, compile, hsort]
  cases sortOf (before ++ (key, other) :: after) with
  | error e => rfl
  | ok sort =>
    cases hschema : compiler.model.schema with
    | error e => rfl
    | ok schema =>
      rw [declared_eq hschema] at h
      simp only [compileWith, clauseParams_append, clauseParams_cons, if_neg hnot,
        contributions_replace h]

end Replaced

/-! ## Parameters on their own -/

/-- Compiles one parameter without any other. -/
def alone (compiler : Compiler) (source : LocaleSource) (entry : String × Value) :
    Except Failure CompiledQuery :=
  (compiler.compile [entry] source).1

section ReadableSchema

variable {schema : Option Schema} (hschema : compiler.model.schema = .ok schema)

include hschema

theorem alone_of_directive {entry : String × Value}
    (h : entry.1 = sortKey ∨ entry.1 = modeKey) {sort : List SortField}
    (hsort : sortOf [entry] = .ok sort) :
    compiler.alone source entry = .ok ⟨none, [], sort, compiler.fields⟩ := by
  rw [alone, compile_eq_map hschema hsort, clauseParams_cons, if_pos h]
  rfl

/-- What one parameter that is no directive compiles to. -/
theorem compile_singleton {entry : String × Value} (h : ¬ (entry.1 = sortKey ∨ entry.1 = modeKey)) :
    (compiler.compile [entry] source).1 =
      (compiler.contribution compiler.declared entry.1 entry.2).map fun c =>
        ⟨freeTextClause (compiler.texts [c] source).1, filtersOf [c], SortField.defaults,
          compiler.fields⟩ := by
  have hnone : clauseParams [] = [] := rfl
  rw [compile_eq_map hschema (sortOf_singleton_of_ne (not_or.mp h).1), clauseParams_cons, if_neg h,
    hnone, List.mapM_cons]
  cases compiler.contribution compiler.declared entry.1 entry.2 <;> rfl

theorem alone_of_clause (hlocale : compiler.GivesOnly locale source) {entry : String × Value}
    (h : ¬ (entry.1 = sortKey ∨ entry.1 = modeKey)) :
    compiler.alone source entry =
      (compiler.contribution compiler.declared entry.1 entry.2).map fun c =>
        ⟨joinedText ((compiler.termIn locale c).toList.map enclosedTerm), filtersOf [c],
          SortField.defaults, compiler.fields⟩ := by
  rw [alone, compile_singleton hschema h]
  congr 1
  funext c
  rw [texts_eq_filterMap hlocale, freeTextClause_eq]
  cases hterm : compiler.termIn locale c <;> simp [hterm]

/-- A parameter fails on its own as it fails in its place. -/
theorem failure?_alone (hlocale : compiler.GivesOnly locale source) {entry : String × Value}
    (h : ¬ (entry.1 = sortKey ∨ entry.1 = modeKey)) :
    failure? (compiler.alone source entry) =
      failure? (compiler.contribution compiler.declared entry.1 entry.2) := by
  rw [alone_of_clause hschema hlocale h, failure?_map]

/-- Contributions are what the parameters compile to on their own. -/
theorem exists_parts (hlocale : compiler.GivesOnly locale source) {params : Params}
    (hsorts : ∀ entry ∈ params, HasReadableSort [entry]) {cs : List Contribution}
    (h : List.Forall₂
      (fun entry c => compiler.contribution compiler.declared entry.1 entry.2 = .ok c)
      (clauseParams params) cs) :
    ∃ parts, List.Forall₂ (fun entry part => compiler.alone source entry = .ok part) params parts ∧
      filtersOf cs = parts.flatMap CompiledQuery.filters ∧
      (cs.filterMap (compiler.termIn locale)).map enclosedTerm =
        parts.filterMap CompiledQuery.text? := by
  induction params generalizing cs with
  | nil =>
    cases h
    exact ⟨[], .nil, rfl, rfl⟩
  | cons entry rest ih =>
    have hrest := fun e he => hsorts e (List.mem_cons_of_mem _ he)
    rw [clauseParams_cons] at h
    split at h
    · next hdirective =>
      obtain ⟨sort, hsort⟩ := exists_sortOf_iff.mpr (hsorts entry List.mem_cons_self)
      obtain ⟨parts, hparts, hfilters, htexts⟩ := ih hrest h
      exact ⟨_, .cons (alone_of_directive hschema hdirective hsort) hparts, hfilters, htexts⟩
    · next hclause =>
      obtain ⟨c, others, hc, hothers, rfl⟩ := List.forall₂_cons_left_iff.mp h
      obtain ⟨parts, hparts, hfilters, htexts⟩ := ih hrest hothers
      have halone := alone_of_clause hschema hlocale hclause
      rw [hc, Except.map] at halone
      refine ⟨_, .cons halone hparts, ?_, ?_⟩
      · rw [List.flatMap_cons, ← hfilters]
        exact (List.filterMap_append : filtersOf ([c] ++ others) = _)
      · rw [List.filterMap_cons, List.filterMap_cons, ← htexts, text?_of_term]
        cases compiler.termIn locale c <;> rfl

/-! ## The whole -/

omit hschema in
theorem sortOf_of_compile {params : Params} {compiled : CompiledQuery}
    (h : (compiler.compile params source).1 = .ok compiled) :
    sortOf params = .ok compiled.sort := by
  obtain ⟨cs, sort, _, hsort, rfl⟩ := compile_ok h
  exact hsort

/-- Compiling gives the filters and texts of the parameters on their own, in order. -/
theorem exists_parts_of_compile (hlocale : compiler.GivesOnly locale source) {params : Params}
    (hdistinct : (params.map Prod.fst).Nodup) {compiled : CompiledQuery}
    (h : (compiler.compile params source).1 = .ok compiled) :
    ∃ parts, List.Forall₂ (fun entry part => compiler.alone source entry = .ok part) params parts ∧
      compiled.filters = parts.flatMap CompiledQuery.filters ∧
      compiled.freeText = joinedText (parts.filterMap CompiledQuery.text?) := by
  obtain ⟨cs, sort, hcs, hsort, rfl⟩ := compile_ok h
  have hreadable : HasReadableSort params := exists_sortOf_iff.mp ⟨sort, hsort⟩
  obtain ⟨parts, hparts, hfilters, htexts⟩ :=
    exists_parts hschema hlocale (fun _ => hreadable.singleton hdistinct) hcs
  refine ⟨parts, hparts, hfilters, ?_⟩
  show freeTextClause _ = _
  rw [texts_eq_filterMap hlocale, freeTextClause_eq, htexts]

/-- When the sort directive has a text, compiling fails as the first other parameter that fails on
its own. -/
theorem failure?_compile_eq_findSome? (hlocale : compiler.GivesOnly locale source)
    {params : Params} (hreadable : HasReadableSort params) :
    failure? (compiler.compile params source).1 =
      (params.filter fun entry => entry.1 ≠ sortKey ∧ entry.1 ≠ modeKey).findSome? fun entry =>
        failure? (compiler.alone source entry) := by
  obtain ⟨sort, hsort⟩ := exists_sortOf_iff.mpr hreadable
  rw [compile_eq_map hschema hsort, failure?_map, failure?_mapM]
  clear hreadable hsort
  induction params with
  | nil => rfl
  | cons entry rest ih =>
    rw [clauseParams_cons]
    by_cases h : entry.1 = sortKey ∨ entry.1 = modeKey
    · rw [if_pos h, List.filter_cons_of_neg (by simpa [← not_or] using h), ih]
    · rw [if_neg h, List.filter_cons_of_pos (by simpa [← not_or] using h), List.findSome?_cons,
        List.findSome?_cons, failure?_alone hschema hlocale h, ih]

omit hschema in
/-- A sort directive that has no text fails on its own as it fails among other parameters. -/
theorem alone_of_unreadable {directive : Value} (h : ¬ SortField.HasText directive) :
    compiler.alone source (sortKey, directive) = .error .integerTooLong := by
  have hnot : ¬ HasReadableSort [(sortKey, directive)] :=
    fun hreadable => h (hreadable directive List.lookup_cons_self)
  rw [alone, compile_of_not_hasReadableSort hnot]

/-! ## Other orders -/

/-- Whether parameters compile does not depend on their order. -/
theorem exists_compile_of_perm (hlocale : compiler.GivesOnly locale source)
    {params other : Params} (hdistinct : (params.map Prod.fst).Nodup) (hperm : other.Perm params)
    {compiled : CompiledQuery} (h : (compiler.compile params source).1 = .ok compiled) :
    ∃ compiled', (compiler.compile other source).1 = .ok compiled' := by
  have hsort := sortOf_of_compile h
  have hreadable : HasReadableSort params := exists_sortOf_iff.mp ⟨_, hsort⟩
  have hreadable' : HasReadableSort other :=
    exists_sortOf_iff.mp ⟨_, (sortOf_eq_of_perm hdistinct hperm).trans hsort⟩
  have hnone : failure? (compiler.compile params source).1 = none := failure?_eq_none.mpr ⟨_, h⟩
  rw [failure?_compile_eq_findSome? hschema hlocale hreadable, List.findSome?_eq_none_iff] at hnone
  rw [← failure?_eq_none, failure?_compile_eq_findSome? hschema hlocale hreadable',
    List.findSome?_eq_none_iff]
  exact fun entry hentry => hnone entry ((hperm.filter _).mem_iff.mp hentry)

omit hschema in
/-- The parts of parameters in another order are the same parts in that order. -/
theorem parts_perm {params other : Params} (hperm : other.Perm params)
    {parts parts' : List CompiledQuery}
    (hparts : List.Forall₂ (fun entry part => compiler.alone source entry = .ok part) params parts)
    (hparts' : List.Forall₂ (fun entry part => compiler.alone source entry = .ok part) other
      parts') :
    parts'.Perm parts := by
  obtain ⟨reordered, hreordered, hsame⟩ := List.perm_comp_forall₂ hperm hparts
  have hunique : Relator.RightUnique fun entry part => compiler.alone source entry = .ok part :=
    fun _ _ _ hfirst hsecond => Except.ok.inj (hfirst.symm.trans hsecond)
  rwa [hunique.forall₂ hparts' hreordered]

end ReadableSchema

/-- Free text, a filter, a group and directives, none of them next to one of its kind. -/
def interleavedParams : Params :=
  [("q_cont", .text "a"), ("age_gteq", .text "3"), ("s", .text "name desc"),
    ("title_cont", .text "b c"), ("m", .text "or"),
    ("g", .list [.map [(.text "state_eq", .text "open")]]), ("nonsense", .text "d")]

end Compiler

end SearchFilter
