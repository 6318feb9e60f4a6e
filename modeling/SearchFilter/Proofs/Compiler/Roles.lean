import SearchFilter.Compiler
import SearchFilter.Proofs.Lucene.Term
import SearchFilter.Proofs.Results

/-!
# What a key asks for

`Compiler.contribution` goes through several tests before it knows what to do with a parameter.
This file says once what can come out of them, so that no later proof opens the compiler again.

* `Compiler.role` sorts the keys: directives, free text, groups, words of one field, filters, and
  keys that mean nothing.
* `Compiler.part` is what a value contributes in each role.  `contribution_eq` puts the two
  together, `compile_ok` says what a whole compilation returns, and `exists_of_mem_filters` where its
  filters come from.
* `Compiler.searchTerms` lists the free-text terms of parameters before they are written, and
  `freeText_eq` shows that the compiler writes these terms and no others.
-/

namespace SearchFilter

/-! ## Roles -/

/-- What a key asks for, whatever stands under it. -/
inductive KeyRole where
  /-- The sort directive and the ignored key, which are no part of the query. -/
  | directive
  | freeText
  | groups
  /-- Free text on one field. -/
  | words (field : String)
  | filter (key : FilterKey)
  /-- The key names no field or no predicate. -/
  | unknown

namespace Compiler

/-- The role of a key that names neither a directive, nor free text, nor groups. -/
def roleOfParsed : Option FilterKey → KeyRole
  | none => .unknown
  | some key =>
    if key.predicate.name = containsName ∧ ¬ key.isMultiField then .words (key.fields.headD "")
    else .filter key

/-- The role of a key. -/
def role (compiler : Compiler) (key : String) : Except Failure KeyRole :=
  if key = sortKey ∨ key = modeKey then .ok .directive
  else if key ∈ freeTextKeys then .ok .freeText
  else if key = groupKey then .ok .groups
  else (compiler.parseKey key).map roleOfParsed

/-- What is declared of the fields; nothing, when the model has no schema. -/
def declared (compiler : Compiler) : Schema :=
  match compiler.model.schema with
  | .ok schema => schema.getD []
  | .error _ => []

/-- The compiler of a caller that has no model and chooses nothing. -/
def plain : Compiler :=
  .make .absent .default .default

/-- What a value contributes under a key of the given role. -/
def part (compiler : Compiler) (value : Value) : KeyRole → Except Failure Contribution
  | .directive => .ok .nothing
  | .unknown => .ok .nothing
  | .freeText =>
    .ok (.text (if compiler.escape then Lucene.escape value.searchText else value.searchText))
  | .words field => .ok (.words field (Text.words value.searchText))
  | .groups =>
    (compiler.groupClause compiler.declared value).map fun clause => clause.elim .nothing .filter
  | .filter key => (compiler.filterClause compiler.declared key value).map .filter

variable {compiler : Compiler} {key : String} {value : Value}

theorem declared_eq {schema : Option Schema} (hschema : compiler.model.schema = .ok schema) :
    compiler.declared = schema.getD [] := by
  rw [declared, hschema]

/-! ## Keys -/

theorem predicate_mem {key : String} {parsed : FilterKey}
    (h : compiler.parseKey key = .ok (some parsed)) :
    parsed.predicate ∈ compiler.settings.predicates := by
  rw [parseKey, FilterKey.parse] at h
  split at h
  · cases h
  · next part predicate hfind =>
    obtain ⟨p, hp, hpart⟩ := List.exists_of_findSome?_eq_some hfind
    obtain ⟨_, _, hfound⟩ := Option.map_eq_some_iff.mp hpart
    cases hfound
    split at h
    · cases h
    · cases h
    · cases h
      exact hp

theorem not_directive_of_role {key : String} {role : KeyRole}
    (h : compiler.role key = .ok role) (hrole : role ≠ .directive) :
    ¬ (key = sortKey ∨ key = modeKey) := by
  intro hkey
  rw [Compiler.role, if_pos hkey] at h
  exact hrole (Except.ok.inj h).symm

/-- A key with the role of a filter names what the filter asks for. -/
theorem parseKey_of_role {key : String} {parsed : FilterKey}
    (h : compiler.role key = .ok (.filter parsed)) : compiler.parseKey key = .ok (some parsed) := by
  rw [role] at h
  split at h
  · cases h
  · split at h
    · cases h
    · split at h
      · cases h
      · obtain ⟨found, hfound, hrole⟩ := map_eq_ok h
        cases found with
        | none => cases hrole
        | some found =>
          rw [roleOfParsed] at hrole
          split at hrole
          · cases hrole
          · cases hrole
            exact hfound

/-! ## One parameter -/

private theorem keyContribution_eq :
    compiler.keyContribution compiler.declared key value =
      (compiler.parseKey key).bind fun parsed => compiler.part value (roleOfParsed parsed) := by
  rw [keyContribution]
  cases compiler.parseKey key with
  | error e => rfl
  | ok parsed =>
    cases parsed with
    | none => rfl
    | some parsed =>
      show (if _ then _ else _) = compiler.part value (if _ then _ else _)
      split
      · rfl
      · show (compiler.filterClause compiler.declared parsed value).bind _ = Except.map _ _
        cases compiler.filterClause compiler.declared parsed value <;> rfl

private theorem valueContribution_eq (hnot : ¬ (key = sortKey ∨ key = modeKey)) :
    compiler.valueContribution compiler.declared key value =
      (compiler.role key).bind (compiler.part value) := by
  rw [valueContribution, role, if_neg hnot]
  by_cases htext : key ∈ freeTextKeys
  · rw [if_pos (List.contains_iff_mem.mpr htext), if_pos htext]
    rfl
  · rw [if_neg (fun hc => htext (List.contains_iff_mem.mp hc)), if_neg htext]
    split
    · rfl
    · rw [keyContribution_eq]
      cases compiler.parseKey key <;> rfl

/-- A parameter that is not blank contributes what its value is in the role of its key. -/
theorem contribution_eq (hnot : ¬ (key = sortKey ∨ key = modeKey)) :
    compiler.contribution compiler.declared key value =
      if value.isBlank then .ok .nothing
      else value.integers.bind fun read => (compiler.role key).bind (compiler.part read) := by
  rw [contribution]
  split
  · rfl
  · cases value.integers with
    | error e => rfl
    | ok read => exact valueContribution_eq hnot

/-- A parameter that is read is blank, or its value and the role of its key are known. -/
theorem contribution_ok {c : Contribution} (hnot : ¬ (key = sortKey ∨ key = modeKey))
    (h : compiler.contribution compiler.declared key value = .ok c) :
    (value.isBlank = true ∧ c = .nothing) ∨
      (value.isBlank = false ∧ ∃ read role, value.integers = .ok read ∧
        compiler.role key = .ok role ∧ compiler.part read role = .ok c) := by
  rw [contribution_eq hnot] at h
  cases hblank : value.isBlank with
  | true =>
    rw [hblank] at h
    cases h
    exact .inl ⟨rfl, rfl⟩
  | false =>
    rw [hblank] at h
    obtain ⟨read, hread, h⟩ := bind_eq_ok h
    obtain ⟨role, hrole, h⟩ := bind_eq_ok h
    exact .inr ⟨rfl, read, role, hread, hrole, h⟩

/-- A filter comes of a value under the key of groups or of a filter. -/
theorem part_filter_ok {role : KeyRole} {clause : Clause}
    (h : compiler.part value role = .ok (.filter clause)) :
    (role = .groups ∧ compiler.groupClause compiler.declared value = .ok (some clause)) ∨
      ∃ parsed, role = .filter parsed ∧
        compiler.filterClause compiler.declared parsed value = .ok clause := by
  cases role with
  | directive | unknown | freeText | words field => cases h
  | groups =>
    obtain ⟨found, hfound, hclause⟩ := map_eq_ok h
    cases found with
    | none => cases hclause
    | some found =>
      cases hclause
      exact .inl ⟨rfl, hfound⟩
  | filter parsed =>
    obtain ⟨found, hfound, hclause⟩ := map_eq_ok h
    cases hclause
    exact .inr ⟨parsed, rfl, hfound⟩

/-! ## All parameters -/

variable {params : Params} {source : LocaleSource}

private theorem contributions_ok {schema : Schema} {cs : List Contribution}
    (h : compiler.contributions schema params = (cs, none)) :
    List.Forall₂ (fun entry c => compiler.contribution schema entry.1 entry.2 = .ok c)
      params cs := by
  induction params generalizing cs with
  | nil =>
    cases h
    exact .nil
  | cons entry rest ih =>
    obtain ⟨key, value⟩ := entry
    rw [contributions] at h
    cases hfirst : compiler.contribution schema key value with
    | error e =>
      rw [hfirst] at h
      cases h
    | ok first =>
      rw [hfirst] at h
      obtain ⟨rfl, hrest⟩ := Prod.mk.inj h
      exact .cons hfirst (ih (Prod.ext rfl hrest))

/-- The parameters that contribute clauses are those that are no directives. -/
theorem mem_clauseParams {entry : String × Value} :
    entry ∈ clauseParams params ↔
      entry ∈ params ∧ ¬ (entry.1 = sortKey ∨ entry.1 = modeKey) := by
  simp [clauseParams, Entries.erase, and_assoc, and_comm]

theorem clauseParams_cons (entry : String × Value) (rest : Params) :
    clauseParams (entry :: rest) =
      if entry.1 = sortKey ∨ entry.1 = modeKey then clauseParams rest
      else entry :: clauseParams rest := by
  by_cases h : entry.1 = sortKey ∨ entry.1 = modeKey
  · rw [if_pos h]
    rcases h with h | h <;> simp [clauseParams, Entries.erase, h, sortKey, modeKey]
  · rw [if_neg h]
    simp [clauseParams, Entries.erase, (not_or.mp h).1, (not_or.mp h).2]

theorem clauseParams_append (before after : Params) :
    clauseParams (before ++ after) = clauseParams before ++ clauseParams after := by
  simp [clauseParams, Entries.erase]

/-- A compiled query is what the contributions of the parameters make of it, in the sort order of
the parameters. -/
theorem compile_ok {compiled : CompiledQuery}
    (h : (compiler.compile params source).1 = .ok compiled) :
    ∃ cs sort, List.Forall₂
        (fun entry c => compiler.contribution compiler.declared entry.1 entry.2 = .ok c)
        (clauseParams params) cs ∧
      sortOf params = .ok sort ∧
      compiled = ⟨freeTextClause (compiler.texts cs source).1, filtersOf cs, sort,
        compiler.fields⟩ := by
  rw [compile] at h
  cases hsort : sortOf params with
  | error e =>
    rw [hsort] at h
    cases h
  | ok sort =>
    rw [hsort] at h
    cases hschema : compiler.model.schema with
    | error e =>
      rw [hschema] at h
      cases h
    | ok schema =>
      have hdeclared : compiler.declared = schema.getD [] := declared_eq hschema
      rw [hschema] at h
      simp only [compileWith, ← hdeclared] at h
      cases hread : compiler.contributions compiler.declared (clauseParams params) with
      | mk cs failure =>
        rw [hread] at h
        cases failure with
        | some e => cases h
        | none =>
          cases h
          exact ⟨cs, sort, contributions_ok hread, rfl, rfl⟩

/-- Each filter of a compiled query comes from a parameter that is not blank. -/
theorem exists_of_mem_filters {compiled : CompiledQuery}
    (h : (compiler.compile params source).1 = .ok compiled) {clause : Clause}
    (hclause : clause ∈ compiled.filters) :
    ∃ entry ∈ params, entry.2.isBlank = false ∧
      ∃ read role, entry.2.integers = .ok read ∧ compiler.role entry.1 = .ok role ∧
        compiler.part read role = .ok (.filter clause) := by
  obtain ⟨cs, sort, hcs, _, rfl⟩ := compile_ok h
  obtain ⟨c, hc, hfilter⟩ := List.mem_filterMap.mp hclause
  have hc' : c = .filter clause := by
    split at hfilter
    · cases hfilter
      rfl
    · cases hfilter
  obtain ⟨entry, hentry, hcontribution⟩ := exists_of_mem_right hcs hc
  obtain ⟨hmem, hnot⟩ := mem_clauseParams.mp hentry
  rcases contribution_ok hnot (hc' ▸ hcontribution) with ⟨_, hnothing⟩ | hread
  · cases hnothing
  · exact ⟨entry, hmem, hread⟩

end Compiler

/-! ## Free text -/

/-- The text searched for when a value stands under a key of free text; a list of integer texts
counts as the integers. -/
def Value.soughtText (value : Value) : String :=
  (value.integers.toOption.getD value).searchText

theorem soughtText_eq {value read : Value} (hread : value.integers = .ok read) :
    value.soughtText = read.searchText := by
  rw [Value.soughtText, hread]
  rfl

namespace Compiler

variable {compiler : Compiler}

/-- The free-text terms of parameters, in order, their fields named in the locale current at their
turn. -/
def searchTerms (compiler : Compiler) : Params → LocaleSource → List SearchTerm
  | [], _ => []
  | (key, value) :: rest, source =>
    if value.isBlank then compiler.searchTerms rest source
    else match compiler.role key with
      | .ok .freeText => .text value.soughtText :: compiler.searchTerms rest source
      | .ok (.words field) =>
        let localized := compiler.localize field source
        .words localized.1 (Text.words value.soughtText) :: compiler.searchTerms rest localized.2
      | _ => compiler.searchTerms rest source

/-- Directives contribute no free text. -/
theorem searchTerms_clauseParams (params : Params) (source : LocaleSource) :
    compiler.searchTerms (clauseParams params) source = compiler.searchTerms params source := by
  induction params generalizing source with
  | nil => rfl
  | cons entry rest ih =>
    obtain ⟨key, value⟩ := entry
    rw [clauseParams_cons]
    split
    · next hdirective =>
      have hrole : compiler.role key = .ok .directive := if_pos hdirective
      rw [ih, searchTerms, hrole, ite_self]
    · rw [searchTerms, searchTerms]
      simp only [ih]

private theorem texts_eq {params : Params} {cs : List Contribution}
    (h : List.Forall₂
      (fun entry c => compiler.contribution compiler.declared entry.1 entry.2 = .ok c) params cs)
    (hnot : ∀ entry ∈ params, ¬ (entry.1 = sortKey ∨ entry.1 = modeKey)) (source : LocaleSource) :
    (compiler.texts cs source).1 =
      (compiler.searchTerms params source).map (SearchTerm.write compiler.escape) := by
  induction h generalizing source with
  | nil => rfl
  | @cons entry c rest cs hfirst hrest ih =>
    obtain ⟨key, value⟩ := entry
    have ih' := ih fun e he => hnot e (List.mem_cons_of_mem _ he)
    rw [searchTerms]
    rcases contribution_ok (hnot (key, value) List.mem_cons_self) hfirst with
      ⟨hblank, rfl⟩ | ⟨hblank, read, role, hread, hrole, hpart⟩
    · rw [if_pos hblank]
      exact ih' source
    · simp only [hblank, hrole, soughtText_eq hread, Bool.false_eq_true, if_false]
      cases role with
      | directive | unknown =>
        cases hpart
        exact ih' source
      | freeText | words field =>
        cases hpart
        simp only [texts, ih', List.map_cons, SearchTerm.write]
      | groups =>
        obtain ⟨clause, _, rfl⟩ := map_eq_ok hpart
        cases clause <;> exact ih' source
      | filter key =>
        obtain ⟨clause, _, rfl⟩ := map_eq_ok hpart
        exact ih' source

/-- The free text of a compiled query is that of the terms of its parameters. -/
theorem freeText_eq {params : Params} {source : LocaleSource} {compiled : CompiledQuery}
    (h : (compiler.compile params source).1 = .ok compiled) :
    compiled.freeText =
      freeTextClause ((compiler.searchTerms params source).map
        (SearchTerm.write compiler.escape)) := by
  obtain ⟨cs, sort, hcs, _, rfl⟩ := compile_ok h
  show freeTextClause _ = _
  rw [texts_eq hcs fun entry he => (mem_clauseParams.mp he).2, searchTerms_clauseParams]

end Compiler

end SearchFilter
