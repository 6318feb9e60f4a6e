import SearchFilter.Compiler
import SearchFilter.Proofs.Entries
import SearchFilter.Proofs.Sort

/-!
# The sort directive among parameters

The sort directive is read before all other parameters and before the schema of the model.  It is
refused if it has no text, and this is the failure then, whatever else could fail
(`compile_of_not_hasReadableSort`).  Otherwise there is a sort order (`exists_sortOf_iff`).

The order depends on the directive alone: without one it is the default order
(`sortOf_eq_of_not_mem`), and the place of the directive does not matter (`sortOf_eq_of_perm`).
-/

namespace SearchFilter.Compiler

variable {params : Params}

/-- The sort directive has a text, if there is one. -/
def HasReadableSort (params : Params) : Prop :=
  ∀ directive, params.lookup sortKey = some directive → SortField.HasText directive

theorem hasReadableSort_iff :
    HasReadableSort params ↔ SortField.HasText ((params.lookup sortKey).getD .null) := by
  rw [HasReadableSort]
  cases params.lookup sortKey with
  | none => exact iff_of_true (fun _ h => nomatch h) ⟨"", rfl⟩
  | some directive => simp

theorem exists_sortOf_iff : (∃ sort, sortOf params = .ok sort) ↔ HasReadableSort params := by
  rw [hasReadableSort_iff, sortOf, SortField.ofDirective, SortField.HasText]
  cases SortField.directiveText _ <;> simp [Except.map]

theorem sortOf_eq_error_iff {e : Failure} :
    sortOf params = .error e ↔ ¬ HasReadableSort params ∧ e = .integerTooLong := by
  rw [hasReadableSort_iff, ← SortField.directiveText_eq_error_iff, sortOf, SortField.ofDirective]
  cases SortField.directiveText _ <;> simp [Except.map]

/-- Parameters whose sort directive has no text do not compile, whatever the compiler. -/
theorem compile_of_not_hasReadableSort (h : ¬ HasReadableSort params) (compiler : Compiler)
    (source : LocaleSource) :
    compiler.compile params source = (.error .integerTooLong, source) := by
  rw [compile, sortOf_eq_error_iff.mpr ⟨h, rfl⟩]

/-- An integer that is too long to be written is refused as a sort directive, whatever the other
parameters. -/
theorem compile_of_long_integer {n : Int} (h : 10 ^ Number.digitLimit ≤ n.natAbs) (rest : Params)
    (compiler : Compiler) (source : LocaleSource) :
    (compiler.compile ((sortKey, .int n) :: rest) source).1 = .error .integerTooLong := by
  have hnot : ¬ HasReadableSort ((sortKey, .int n) :: rest) := fun hreadable =>
    Nat.not_lt.mpr h (SortField.hasText_int_iff.mp (hreadable _ List.lookup_cons_self))
  rw [compile_of_not_hasReadableSort hnot]

/-- Of different keys only one is that of the sort directive. -/
theorem HasReadableSort.singleton (h : HasReadableSort params)
    (hdistinct : (params.map Prod.fst).Nodup) {entry : String × Value} (hentry : entry ∈ params) :
    HasReadableSort [entry] := by
  obtain ⟨key, value⟩ := entry
  intro directive hdirective
  have hmem := Entries.mem_of_lookup_eq_some hdirective
  obtain ⟨rfl, rfl⟩ := Prod.mk.inj (List.mem_singleton.mp hmem)
  exact h _ (Entries.lookup_eq_some_of_mem hdistinct hentry)

/-- Directives that can be written as JSON have a text. -/
theorem hasReadableSort_of_writable (h : ∀ entry ∈ params, Json.Writable entry.2) :
    HasReadableSort params := by
  intro directive hdirective
  have hwritable := h _ (Entries.mem_of_lookup_eq_some hdirective)
  rw [SortField.hasText_iff]
  refine ⟨fun items hitems item hitem => ?_, fun _ _ => Value.hasText_of_writable hwritable⟩
  cases hwritable with
  | list hall | tuple hall =>
    cases hitems
    exact Value.hasText_of_writable (hall item hitem)
  | _ => cases hitems

/-- A model that cannot be read fails when the sort directive has been read. -/
theorem compile_of_schema_error {sort : List SortField} (hsort : sortOf params = .ok sort)
    {compiler : Compiler} {e : Failure} (hschema : compiler.model.schema = .error e)
    (source : LocaleSource) : compiler.compile params source = (.error e, source) := by
  rw [compile, hsort, hschema]

/-! ## The sort order -/

theorem sortOf_eq_of_not_mem (h : sortKey ∉ params.map Prod.fst) :
    sortOf params = .ok SortField.defaults := by
  rw [sortOf, Entries.lookup_eq_none_of_not_mem h]
  rfl

theorem sortOf_eq_of_forall_ne (h : ∀ entry ∈ params, entry.1 ≠ sortKey) :
    sortOf params = .ok SortField.defaults := by
  refine sortOf_eq_of_not_mem fun hmem => ?_
  obtain ⟨entry, hentry, hkey⟩ := List.mem_map.mp hmem
  exact h entry hentry hkey

theorem sortOf_singleton_of_ne {entry : String × Value} (h : entry.1 ≠ sortKey) :
    sortOf [entry] = .ok SortField.defaults :=
  sortOf_eq_of_forall_ne (List.forall_mem_singleton.mpr h)

/-- The sort order depends on the sort directive alone. -/
theorem sortOf_eq_of_mem (hdistinct : (params.map Prod.fst).Nodup) {directive : Value}
    (h : (sortKey, directive) ∈ params) : sortOf params = sortOf [(sortKey, directive)] := by
  rw [sortOf, sortOf, Entries.lookup_eq_some_of_mem hdistinct h, List.lookup_cons_self]

theorem sortOf_eq_of_perm {other : Params} (hdistinct : (params.map Prod.fst).Nodup)
    (hperm : other.Perm params) : sortOf other = sortOf params := by
  have hkeys : (other.map Prod.fst).Perm (params.map Prod.fst) := hperm.map Prod.fst
  by_cases h : sortKey ∈ params.map Prod.fst
  · obtain ⟨⟨_, directive⟩, hmem, rfl⟩ := List.mem_map.mp h
    rw [sortOf_eq_of_mem hdistinct hmem,
      sortOf_eq_of_mem (hkeys.nodup_iff.mpr hdistinct) (hperm.mem_iff.mpr hmem)]
  · rw [sortOf_eq_of_not_mem h, sortOf_eq_of_not_mem fun hmem => h (hkeys.mem_iff.mp hmem)]

end SearchFilter.Compiler
