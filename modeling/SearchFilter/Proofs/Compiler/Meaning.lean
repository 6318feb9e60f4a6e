import SearchFilter.Proofs.Clause.Truth
import SearchFilter.Proofs.Compiler.Groups

/-!
# What a compiled query means

The query of a set of parameters, in the form in which it is sent, is true of a document exactly
when the document has what the parameters ask for.  `Compiler.Asks` says what that is, parameter by
parameter and without clauses:

* the free text, if there is any, is found;
* for every filter key with a value, one of its fields satisfies its predicate on the typed value;
* for every value given as groups, all conditions of one of the groups hold, if there is a group
  with conditions.

The directives, blank values and keys that name nothing do not occur in it.  The main result is
`truth_query_iff`.  It is put together from the same fact for a condition (`holds_conditionClause`),
for a group (`holds_branch`), for groups (`holds_groupClause`) and for one parameter
(`holds_filtersOf_single`).
-/

namespace SearchFilter

namespace Compiler

/-! ## What parameters ask for -/

/-- One of the fields of a condition satisfies its predicate on the typed value. -/
def ConditionHolds (compiler : Compiler) (answer : Leaf → Bool) (condition : Condition) : Prop :=
  ∃ typed, compiler.typedValue condition.1 condition.2 = .ok typed ∧
    ∃ field ∈ condition.1.fields, Satisfied answer field typed condition.1.predicate.name

/-- All conditions of one of the groups hold, if there is a group with conditions. -/
def GroupsHold (compiler : Compiler) (answer : Leaf → Bool) (value : Value) : Prop :=
  compiler.conditionGroups value ≠ [] →
    ∃ group ∈ compiler.conditionGroups value,
      ∀ condition ∈ group, compiler.ConditionHolds answer condition

/-- What a set of parameters asks of a document, by the answers to questions about it. -/
structure Asks (compiler : Compiler) (params : Params) (source : LocaleSource)
    (answer : Leaf → Bool) : Prop where
  freeText : compiler.searchTerms params source ≠ [] →
    answer (.queryText (.text (Lucene.anyOf
      ((compiler.searchTerms params source).map (SearchTerm.write compiler.escape))))) = true
  filters : ∀ entry ∈ params, entry.2.isBlank = false →
    ∀ key, compiler.role entry.1 = .ok (.filter key) →
      compiler.ConditionHolds answer (key, entry.2)
  groups : ∀ entry ∈ params, entry.2.isBlank = false →
    compiler.role entry.1 = .ok .groups → compiler.GroupsHold answer entry.2

end Compiler

/-! ## The query -/

variable {answer : Value → Bool}

/-- A compiled query holds when its free text and all of its filters do. -/
theorem holds_query {compiled : CompiledQuery} :
    compiled.query.Holds answer ↔
      (∀ clause, compiled.freeText = some clause → clause.Holds answer) ∧
        ∀ clause ∈ compiled.filters, clause.Holds answer := by
  rw [CompiledQuery.query]
  cases compiled.freeText with
  | none => cases compiled.filters <;> simp
  | some text => cases compiled.filters <;> simp

theorem holds_freeTextClause {terms : List String} :
    (∀ clause, Compiler.freeTextClause terms = some clause → clause.Holds answer) ↔
      (terms ≠ [] → sentAnswers answer (.queryText (.text (Lucene.anyOf terms))) = true) := by
  cases terms with
  | nil => simp [Compiler.freeTextClause]
  | cons first rest => simp [Compiler.freeTextClause, Clause.holds_leaf, sentAnswers]

namespace Compiler

variable {compiler : Compiler}

/-- What one parameter asks of a document, apart from free text. -/
def EntryAsks (compiler : Compiler) (answer : Leaf → Bool) (entry : String × Value) : Prop :=
  entry.2.isBlank = false →
    (∀ key, compiler.role entry.1 = .ok (.filter key) →
        compiler.ConditionHolds answer (key, entry.2)) ∧
      (compiler.role entry.1 = .ok .groups → compiler.GroupsHold answer entry.2)

/-- Directives ask nothing of a document. -/
theorem entryAsks_of_directive {entry : String × Value}
    (h : entry.1 = sortKey ∨ entry.1 = modeKey) :
    compiler.EntryAsks (sentAnswers answer) entry := by
  have hrole : compiler.role entry.1 = .ok .directive := if_pos h
  intro _
  simp [hrole]

section DefaultPredicates

variable (answer) (hpredicates : compiler.settings.predicates = Predicate.defaults)

include hpredicates

/-- The clause of a condition holds exactly when the condition does. -/
theorem holds_conditionClause {condition : Condition} {key : String} {clause : Clause}
    (hkey : compiler.parseKey key = .ok (some condition.1))
    (hclause : compiler.conditionClause condition = .ok clause) :
    compiler.ConditionHolds (sentAnswers answer) condition ↔ clause.Holds answer := by
  obtain ⟨typed, htyped, rfl⟩ := map_eq_ok hclause
  have hdefault : condition.1.predicate ∈ Predicate.defaults := hpredicates ▸ predicate_mem hkey
  rw [holds_joined_iff hdefault, ConditionHolds]
  constructor
  · rintro ⟨typed', htyped', hholds⟩
    rw [htyped] at htyped'
    cases htyped'
    exact hholds
  · exact fun hholds => ⟨typed, htyped, hholds⟩

/-- The clause of a group holds exactly when all of its conditions do. -/
theorem holds_branch {value : Value} {group : List Condition} {clause : Clause}
    (hgroup : group ∈ compiler.conditionGroups value)
    (hclause : compiler.branch group = .ok clause) :
    (∀ condition ∈ group, compiler.ConditionHolds (sentAnswers answer) condition) ↔
      clause.Holds answer := by
  obtain ⟨filters, hfilters, rfl⟩ := map_eq_ok hclause
  obtain ⟨entries, _, rfl⟩ := List.mem_map.mp (List.mem_of_mem_filter hgroup)
  rw [Clause.holds_allOf]
  refine forall_mem_iff (mapM_eq_ok hfilters) fun condition hcondition clause hclause => ?_
  obtain ⟨key, hkey⟩ := exists_key_of_mem_conditions hcondition
  exact holds_conditionClause answer hpredicates hkey hclause

/-- The clause of groups holds exactly when the groups do. -/
theorem holds_groupClause (hseparator : compiler.settings.orSeparator.isEmpty = false)
    {value : Value} {clause : Option Clause}
    (hclause : compiler.groupClause compiler.declared value = .ok clause) :
    compiler.GroupsHold (sentAnswers answer) value ↔ ∀ c ∈ clause, c.Holds answer := by
  rw [groupClause_eq hseparator] at hclause
  obtain ⟨branches, hbranches, rfl⟩ := map_eq_ok hclause
  have hall := mapM_eq_ok hbranches
  have hany := exists_mem_iff hall fun group hgroup clause hclause =>
    holds_branch answer hpredicates hgroup hclause
  have hnil : compiler.conditionGroups value = [] ↔ branches = [] := by
    rw [← List.length_eq_zero_iff, ← List.length_eq_zero_iff, hall.length_eq]
  rw [GroupsHold, hany, ne_eq, hnil]
  cases branches with
  | nil => simp
  | cons first rest => simp

/-! ## One parameter -/

/-- The filter that a parameter contributes holds exactly when the document has what the parameter
asks for. -/
theorem holds_filtersOf_single (hseparator : compiler.settings.orSeparator.isEmpty = false)
    {entry : String × Value} {c : Contribution} (hnot : ¬ (entry.1 = sortKey ∨ entry.1 = modeKey))
    (h : compiler.contribution compiler.declared entry.1 entry.2 = .ok c) :
    compiler.EntryAsks (sentAnswers answer) entry ↔
      ∀ clause ∈ filtersOf [c], clause.Holds answer := by
  rw [EntryAsks]
  rcases contribution_ok hnot h with ⟨hblank, rfl⟩ | ⟨hblank, read, role, hread, hrole, hpart⟩
  · simp [hblank, filtersOf]
  · rw [hrole]
    cases role with
    | directive | unknown | freeText | words field =>
      cases hpart
      simp [filtersOf]
    | groups =>
      obtain ⟨clause, hclause, rfl⟩ := map_eq_ok hpart
      have hgroups := holds_groupClause answer hpredicates hseparator hclause
      rw [GroupsHold, conditionGroups_of_integers hread, ← GroupsHold] at hgroups
      cases clause <;> simpa [hblank, filtersOf] using hgroups
    | filter key =>
      obtain ⟨clause, hclause, rfl⟩ := map_eq_ok hpart
      have hcondition : compiler.conditionClause (key, entry.2) = .ok clause := by
        rw [conditionClause, typedValue, hread]
        exact hclause
      have hholds := holds_conditionClause answer hpredicates
        (parseKey_of_role hrole) hcondition
      simpa [hblank, filtersOf] using hholds

/-! ## All parameters -/

private theorem holds_filtersOf (hseparator : compiler.settings.orSeparator.isEmpty = false)
    {params : Params} {cs : List Contribution}
    (h : List.Forall₂
      (fun entry c => compiler.contribution compiler.declared entry.1 entry.2 = .ok c) params cs)
    (hnot : ∀ entry ∈ params, ¬ (entry.1 = sortKey ∨ entry.1 = modeKey)) :
    (∀ entry ∈ params, compiler.EntryAsks (sentAnswers answer) entry) ↔
      ∀ clause ∈ filtersOf cs, clause.Holds answer := by
  have hsplit : (∀ clause ∈ filtersOf cs, clause.Holds answer) ↔
      ∀ c ∈ cs, ∀ clause ∈ filtersOf [c], clause.Holds answer := by
    simp only [filtersOf, List.mem_filterMap, List.mem_singleton]
    grind
  rw [hsplit]
  exact forall_mem_iff h fun entry hentry c hc =>
    holds_filtersOf_single answer hpredicates hseparator (hnot entry hentry) hc

/-- The query that parameters compile to is true of a document exactly when the document has what
the parameters ask for. -/
theorem truth_query_iff {params : Params} {source : LocaleSource} {compiled : CompiledQuery}
    (hseparator : compiler.settings.orSeparator = FilterKey.defaultSeparator)
    (h : (compiler.compile params source).1 = .ok compiled) (answer : Value → Bool) :
    compiled.query.toValue.truth answer = true ↔
      compiler.Asks params source (sentAnswers answer) := by
  have hseparator' : compiler.settings.orSeparator.isEmpty = false := by
    rw [hseparator]
    rfl
  have htext := freeText_eq h
  obtain ⟨cs, sort, hcs, _, rfl⟩ := compile_ok h
  have hentries := holds_filtersOf answer hpredicates hseparator' hcs
    (fun entry he => (mem_clauseParams.mp he).2)
  have hall : (∀ entry ∈ params, compiler.EntryAsks (sentAnswers answer) entry) ↔
      ∀ entry ∈ clauseParams params, compiler.EntryAsks (sentAnswers answer) entry := by
    constructor
    · exact fun hasks entry hentry => hasks entry (mem_clauseParams.mp hentry).1
    · intro hasks entry hentry
      by_cases hdirective : entry.1 = sortKey ∨ entry.1 = modeKey
      · exact entryAsks_of_directive hdirective
      · exact hasks entry (mem_clauseParams.mpr ⟨hentry, hdirective⟩)
  show Clause.Holds answer _ ↔ _
  rw [holds_query, htext, holds_freeTextClause, ← hentries, ← hall, ne_eq, List.map_eq_nil_iff]
  constructor
  · rintro ⟨hfree, hasks⟩
    exact ⟨hfree, fun entry he hblank => (hasks entry he hblank).1,
      fun entry he hblank => (hasks entry he hblank).2⟩
  · rintro ⟨hfree, hfilters, hgroups⟩
    exact ⟨hfree, fun entry he hblank => ⟨hfilters entry he hblank, hgroups entry he hblank⟩⟩

end DefaultPredicates

/-- Parameters of all kinds: free text, a negation over two fields, groups of which one is empty, a
truth value and a date. -/
def mixedParams : Params :=
  [("q_cont", .text "fish (raw"), ("title_or_body_not_cont", .text "old news"),
    ("g", .map [
      (.text "0", .map [(.text "state_eq", .text "open"),
        (.text "id_in", .list [.text "1", .text "2"])]),
      (.text "1", .map [(.text "nothing", .text "x")])]),
    ("is_active_eq", .text "1"), ("s", .text "name desc"), ("day_gteq", .text "31.12.2024")]

/-- The answers of a document for which the questions about terms hold and no others. -/
def onlyTerms (question : Value) : Bool :=
  match question with
  | .map [(.text "term", _)] => true
  | _ => false

/-- The query of parameters of all kinds, when only terms are answered to hold. -/
theorem truth_query_mixedParams :
    ∃ compiled, (plain.compile mixedParams (.constant "en")).1 = .ok compiled ∧
      (compiled.query.toValue.truth onlyTerms = true ↔
        plain.Asks mixedParams (.constant "en")
          (sentAnswers onlyTerms)) := by
  have hcompiles : (plain.compile mixedParams (.constant "en")).1.isOk = true := by
    decide +kernel
  obtain ⟨compiled, h⟩ := exists_eq_ok hcompiles
  exact ⟨compiled, h, truth_query_iff rfl rfl h onlyTerms⟩

end Compiler

end SearchFilter
