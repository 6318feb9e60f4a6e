import SearchFilter.Proofs.Clause.Writable
import SearchFilter.Proofs.Coercion
import SearchFilter.Proofs.Compiler.Groups

/-!
# Compiled queries can be sent

Parameters that can be written as JSON compile, with the default date parser, to a query that can:
`writable_body_of_compile` and `exists_json_of_compile`.  What a filter compares its fields with is
part of a parameter, an integer that has been read, a truth value, or a date; all of these can be
written.
-/

namespace SearchFilter.Compiler

open Json (Writable)

variable {compiler : Compiler} (hparser : compiler.settings.dateParser = .default)

include hparser

/-! ## Filters -/

theorem writable_filterClause {key : FilterKey} {value : Value} {clause : Clause}
    (h : compiler.filterClause compiler.declared key value = .ok clause)
    (hvalue : Writable value) : Writable clause.toValue := by
  rw [filterClause, hparser] at h
  obtain ⟨typed, htyped, rfl⟩ := map_eq_ok h
  exact writable_joined (writable_of_coerce_default htyped hvalue) key

theorem writable_conditionClause {condition : Condition} {clause : Clause}
    (h : compiler.conditionClause condition = .ok clause) (hvalue : Writable condition.2) :
    Writable clause.toValue := by
  rw [conditionClause, typedValue, hparser] at h
  obtain ⟨typed, htyped, rfl⟩ := map_eq_ok h
  obtain ⟨read, hread, htyped⟩ := bind_eq_ok htyped
  exact writable_joined (writable_of_coerce_default htyped (writable_of_integers hread hvalue)) _

omit hparser in
/-- The conditions of a value have values that are part of it. -/
theorem writable_of_mem_conditionGroups {value : Value} (hvalue : Writable value)
    {group : List Condition} (hgroup : group ∈ compiler.conditionGroups value)
    {condition : Condition} (hcondition : condition ∈ group) : Writable condition.2 := by
  have hgroups : ∀ item ∈ (groupsOf value).getD [], Writable item := by
    cases hvalue with
    | list hitems | tuple hitems => exact hitems
    | map _ hvalues =>
      show ∀ item ∈ List.map _ _, _
      rw [List.forall_mem_map]
      exact hvalues
    | _ => exact fun _ hitem => absurd hitem List.not_mem_nil
  obtain ⟨hmem, _⟩ := List.mem_filter.mp hgroup
  obtain ⟨entries, hentries, rfl⟩ := List.mem_map.mp hmem
  obtain ⟨item, hitem, hmap⟩ := List.mem_filterMap.mp hentries
  obtain ⟨entry, hentry, hfound⟩ := List.mem_filterMap.mp hcondition
  have hentry' : Writable entry.2 := by
    cases hgroups item hitem with
    | map _ hvalues =>
      cases hmap
      exact hvalues entry hentry
    | _ => cases hmap
  rw [condition?] at hfound
  split at hfound
  · cases hfound
  · obtain ⟨key, _, rfl⟩ := Option.map_eq_some_iff.mp hfound
    exact hentry'

variable (hseparator : compiler.settings.orSeparator.isEmpty = false)

include hseparator

theorem writable_groupClause {value : Value} {clause : Clause}
    (h : compiler.groupClause compiler.declared value = .ok (some clause))
    (hvalue : Writable value) : Writable clause.toValue := by
  rw [groupClause_eq hseparator] at h
  obtain ⟨branches, hbranches, hclause⟩ := map_eq_ok h
  split at hclause
  · cases hclause
  · cases hclause
    refine Clause.writable_anyOf fun branch hbranch => ?_
    obtain ⟨group, hgroup, hfound⟩ := exists_of_mem_right (mapM_eq_ok hbranches) hbranch
    obtain ⟨clauses, hclauses, rfl⟩ := map_eq_ok hfound
    refine Clause.writable_allOf fun clause hclause => ?_
    obtain ⟨condition, hcondition, hread⟩ := exists_of_mem_right (mapM_eq_ok hclauses) hclause
    exact writable_conditionClause hparser hread
      (writable_of_mem_conditionGroups hvalue hgroup hcondition)

/-! ## Whole queries -/

/-- Writable parameters compile to a request body that is writable. -/
theorem writable_body_of_compile {params : Params} {source : LocaleSource}
    {compiled : CompiledQuery} (h : (compiler.compile params source).1 = .ok compiled)
    (hparams : ∀ entry ∈ params, Writable entry.2) : Writable compiled.body := by
  refine CompiledQuery.writable_body (fun clause hclause => ?_) (fun clause hclause => ?_)
  · obtain ⟨cs, sort, _, _, rfl⟩ := compile_ok h
    change clause ∈ freeTextClause _ at hclause
    rw [freeTextClause] at hclause
    split at hclause
    · cases hclause
    · cases hclause
      exact writable_entry (writable_entry (.text _))
  · obtain ⟨entry, hentry, _, read, role, hread, _, hpart⟩ := exists_of_mem_filters h hclause
    have hread' := writable_of_integers hread (hparams entry hentry)
    rcases part_filter_ok hpart with ⟨_, hgroups⟩ | ⟨parsed, _, hfilter⟩
    · exact writable_groupClause hparser hseparator hgroups hread'
    · exact writable_filterClause hparser hfilter hread'

/-- What writable parameters compile to has a JSON form in every layout. -/
theorem exists_json_of_compile {params : Params} {source : LocaleSource}
    {compiled : CompiledQuery} (h : (compiler.compile params source).1 = .ok compiled)
    (hparams : ∀ entry ∈ params, Writable entry.2) (layout : Json.Layout) :
    ∃ text, compiled.json layout = .ok text :=
  (writable_body_of_compile hparser hseparator h hparams).exists_render layout

end SearchFilter.Compiler
