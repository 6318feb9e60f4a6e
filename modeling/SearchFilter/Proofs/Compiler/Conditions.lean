import SearchFilter.Proofs.Clause.Conditions
import SearchFilter.Proofs.Coercion
import SearchFilter.Proofs.Compiler.Roles
import SearchFilter.Proofs.FilterKey

/-!
# Filters have conditions

A parameter that is not blank makes a filter that asks for something.  Its key names at least one
field, and its value has words, also after integers and dates have been read from it.  Groups and
entries of groups from which nothing comes are left out, so that no empty list of them remains.

`hasConditions_filters` is the result, for all predicates and separators that settings can have and
for every schema.  It needs the default date parser: another one may read blanks from a date.
-/

namespace SearchFilter.Compiler

variable {compiler : Compiler} {schema : Schema}
  (hparser : compiler.settings.dateParser = .default)

include hparser

/-! ## Filters -/

theorem hasConditions_filterClause {key : FilterKey} {value : Value} {clause : Clause}
    (hfields : key.fields ≠ []) (hvalue : value.isBlank = false)
    (h : compiler.filterClause schema key value = .ok clause) : clause.HasConditions := by
  rw [filterClause, hparser] at h
  obtain ⟨typed, htyped, rfl⟩ := map_eq_ok h
  exact hasConditions_joined hfields
    (words_display_ne_nil (isBlank_of_coerce_default htyped hvalue))

/-! ## Groups -/

theorem hasConditions_groupEntry {key : String} {value : Value} {clause : Clause}
    (h : compiler.groupEntry schema key value = .ok (some clause)) : clause.HasConditions := by
  rw [groupEntry] at h
  split at h
  · cases h
  · next hblank =>
    obtain ⟨parsed, hparsed, h⟩ := bind_eq_ok h
    cases parsed with
    | none => cases h
    | some parsed =>
      obtain ⟨read, hread, h⟩ := bind_eq_ok h
      obtain ⟨found, hfound, h⟩ := bind_eq_ok h
      cases h
      exact hasConditions_filterClause hparser (FilterKey.fields_ne_nil hparsed)
        (isBlank_of_integers hread (by simpa using hblank)) hfound

theorem hasConditions_groupFilters {entries : List (Value × Value)} {filters : List Clause}
    (h : compiler.groupFilters schema entries = .ok filters) :
    ∀ clause ∈ filters, clause.HasConditions := by
  induction entries generalizing filters with
  | nil =>
    cases h
    simp
  | cons entry rest ih =>
    obtain ⟨key, value⟩ := entry
    obtain ⟨first, hfirst, h⟩ := bind_eq_ok h
    obtain ⟨others, hothers, h⟩ := bind_eq_ok h
    cases h
    intro clause hclause
    rcases List.mem_append.mp hclause with hmem | hmem
    · obtain rfl := Option.mem_toList.mp hmem
      exact hasConditions_groupEntry hparser hfirst
    · exact ih hothers clause hmem

/-- A group whose entries give no filter is left out, so each branch that is kept has one. -/
theorem hasConditions_groupBranches {groups : List Value} {branches : List Clause}
    (h : compiler.groupBranches schema groups = .ok branches) :
    ∀ branch ∈ branches, branch.HasConditions := by
  induction groups generalizing branches with
  | nil =>
    cases h
    simp
  | cons group rest ih =>
    cases group with
    | map entries =>
      obtain ⟨filters, hfilters, h⟩ := bind_eq_ok h
      obtain ⟨others, hothers, h⟩ := bind_eq_ok h
      cases h
      split
      · exact ih hothers
      · next hne =>
        rw [List.forall_mem_cons, Clause.hasConditions_allOf]
        exact ⟨⟨by simpa using hne, hasConditions_groupFilters hparser hfilters⟩, ih hothers⟩
    | _ => exact ih h

theorem hasConditions_groupClause {value : Value} {clause : Clause}
    (h : compiler.groupClause schema value = .ok (some clause)) : clause.HasConditions := by
  rw [groupClause] at h
  split at h
  · cases h
  · obtain ⟨branches, hbranches, h⟩ := bind_eq_ok h
    split_ifs at h with hnone
    · cases h
    · cases h
      rw [Clause.hasConditions_anyOf]
      exact ⟨by simpa using hnone, hasConditions_groupBranches hparser hbranches⟩

/-! ## Whole queries -/

theorem hasConditions_of_mem_filters {params : Params} {source : LocaleSource}
    {compiled : CompiledQuery} (h : (compiler.compile params source).1 = .ok compiled)
    {clause : Clause} (hclause : clause ∈ compiled.filters) : clause.HasConditions := by
  obtain ⟨entry, _, hblank, read, role, hread, hrole, hpart⟩ := exists_of_mem_filters h hclause
  rcases part_filter_ok hpart with ⟨_, hgroups⟩ | ⟨parsed, rfl, hfilter⟩
  · exact hasConditions_groupClause hparser hgroups
  · exact hasConditions_filterClause hparser (FilterKey.fields_ne_nil (parseKey_of_role hrole))
      (isBlank_of_integers hread hblank) hfilter

omit hparser

theorem hasConditions_of_mem_freeText {params : Params} {source : LocaleSource}
    {compiled : CompiledQuery} (h : (compiler.compile params source).1 = .ok compiled)
    {clause : Clause} (hclause : clause ∈ compiled.freeText) : clause.HasConditions := by
  rw [freeText_eq h, freeTextClause] at hclause
  split at hclause
  · cases hclause
  · cases hclause
    exact Clause.hasConditions_leaf (by simp)

/-- The parts of a query are joined to one that asks for something, if there are any. -/
theorem hasConditions_query_iff {compiled : CompiledQuery}
    (htext : ∀ clause ∈ compiled.freeText, clause.HasConditions)
    (hfilters : ∀ clause ∈ compiled.filters, clause.HasConditions) :
    compiled.query.HasConditions ↔ compiled.matchesEverything = false := by
  rw [CompiledQuery.query, CompiledQuery.matchesEverything]
  cases hfree : compiled.freeText with
  | none =>
    cases hnone : compiled.filters with
    | nil => simp
    | cons first rest => simpa [hnone] using hfilters
  | some text =>
    have htext' := htext text hfree
    cases hnone : compiled.filters with
    | nil => simpa using htext'
    | cons first rest => simpa [htext', hnone] using hfilters

/-- Every filter of a compiled query asks for something, and so does every clause inside it.  The
whole query does so too, unless there is nothing at all in it that restricts the documents. -/
theorem hasConditions_filters (hparser : compiler.settings.dateParser = .default)
    {params : Params} {source : LocaleSource} {compiled : CompiledQuery}
    (h : (compiler.compile params source).1 = .ok compiled) :
    (∀ clause ∈ compiled.filters, clause.HasConditions) ∧
      (compiled.query.HasConditions ↔ compiled.matchesEverything = false) := by
  have hfilters : ∀ clause ∈ compiled.filters, clause.HasConditions :=
    fun clause hclause => hasConditions_of_mem_filters hparser h hclause
  exact ⟨hfilters,
    hasConditions_query_iff (fun clause hclause => hasConditions_of_mem_freeText h hclause)
      hfilters⟩

/-- Parameters of which little is left: a blank filter, groups of which only one has an entry with a
value, and words and dates for several fields. -/
def sparseParams : Params :=
  [("name_eq", .text " \t"), ("name_or_title_not_cont", .text " a b "),
    ("g", .list [.map [(.text "name_cont", .text "")], .text "no group", .map [],
      .map [(.text "kind", .text "x"), (.text "kind_not_in", .list [.text "1", .text "2"]),
        (.text "born_or_died_cont", .text "01.02.2024")]]),
    ("h", .map []), ("is_new_or_old_cont", .text "1")]

/-- Three filters are made of them: the negation, the groups, and the truth value as words. -/
theorem hasConditions_filters_sparseParams :
    plain.settings.dateParser = .default ∧
      ∃ compiled, (plain.compile sparseParams (.constant "en")).1 = .ok compiled ∧
        compiled.filters.length = 3 ∧ (∀ clause ∈ compiled.filters, clause.HasConditions) ∧
        (compiled.query.HasConditions ↔ compiled.matchesEverything = false) := by
  have hcount : (plain.compile sparseParams (.constant "en")).1.toOption.map
      (fun compiled => compiled.filters.length) = some 3 := by
    decide +kernel
  have hcompiles : (plain.compile sparseParams (.constant "en")).1.isOk = true := by
    decide +kernel
  obtain ⟨compiled, h⟩ := exists_eq_ok hcompiles
  rw [h] at hcount
  exact ⟨rfl, compiled, h, Option.some.inj hcount, hasConditions_filters rfl h⟩

end SearchFilter.Compiler
