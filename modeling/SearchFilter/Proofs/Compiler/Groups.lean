import SearchFilter.Proofs.Coercion
import SearchFilter.Proofs.Compiler.Roles

/-!
# Groups of conditions

A group is a map whose entries are conditions.  The compiler goes through groups and entries one
after the other; here the same is said with lists.

* `Compiler.conditions` are the conditions of a group, and `conditionGroups` those groups of a value
  that have any.
* `groupClause_eq` is the result: the clause of groups is built from the clauses of these
  conditions, or the first of them that cannot be read is the failure.

All of this needs a separator of field names that is not empty; with an empty one no key can be
read.
-/

namespace SearchFilter.Compiler

variable {compiler : Compiler}

/-! ## Conditions -/

/-- The fields and the predicate that a key names. -/
def named? (compiler : Compiler) (key : String) : Option FilterKey :=
  match compiler.parseKey key with
  | .ok parsed => parsed
  | .error _ => none

/-- The value that a filter key compares its fields with. -/
def typedValue (compiler : Compiler) (key : FilterKey) (value : Value) : Except Failure Value :=
  value.integers.bind fun read =>
    read.coerce (compiler.fieldType compiler.declared key) compiler.settings.dateParser

/-- A filter key with the value that stands under it. -/
abbrev Condition := FilterKey × Value

/-- The condition of an entry of a group, if it has a value and its key names something. -/
def condition? (compiler : Compiler) (entry : Value × Value) : Option Condition :=
  if entry.2.isBlank then none
  else (compiler.named? entry.1.display).map fun key => (key, entry.2)

/-- The conditions of a group. -/
def conditions (compiler : Compiler) (entries : List (Value × Value)) : List Condition :=
  entries.filterMap compiler.condition?

/-- The clause of a condition. -/
def conditionClause (compiler : Compiler) (condition : Condition) : Except Failure Clause :=
  (compiler.typedValue condition.1 condition.2).map (joined condition.1)

/-- The clause of a group. -/
def branch (compiler : Compiler) (group : List Condition) : Except Failure Clause :=
  (group.mapM compiler.conditionClause).map .allOf

/-- The groups of a value, each as its conditions, without those that have none. -/
def conditionGroups (compiler : Compiler) (value : Value) : List (List Condition) :=
  ((((groupsOf value).getD []).filterMap Value.entries?).map compiler.conditions).filter
    (fun group => !group.isEmpty)

/-! ## Where conditions come from -/

/-- The conditions of a group come from keys that name something. -/
theorem exists_key_of_mem_conditions {entries : List (Value × Value)} {condition : Condition}
    (h : condition ∈ compiler.conditions entries) :
    ∃ key, compiler.parseKey key = .ok (some condition.1) := by
  obtain ⟨entry, _, hentry⟩ := List.mem_filterMap.mp h
  rw [condition?] at hentry
  split at hentry
  · cases hentry
  · obtain ⟨key, hkey, rfl⟩ := Option.map_eq_some_iff.mp hentry
    rw [named?] at hkey
    split at hkey
    · next hparse => exact ⟨_, hkey ▸ hparse⟩
    · cases hkey

/-- Reading the integers of a value leaves its groups as they are. -/
theorem conditionGroups_of_integers {value read : Value} (h : value.integers = .ok read) :
    compiler.conditionGroups read = compiler.conditionGroups value := by
  rcases integers_ok h with rfl | ⟨items, hitems, hread⟩
  · rfl
  · have hgroups : ∀ v : Value, v.sequence? = some items → groupsOf v = some items := by
      intro v hv
      cases v <;> simp_all [Value.sequence?, groupsOf, Value.text?, Value.elements?]
    rw [conditionGroups, conditionGroups, hgroups value hitems]
    rcases hread with ⟨_, rfl⟩ | ⟨htexts, numbers, _, rfl⟩
    · rw [hgroups (.list items) rfl]
    · -- Neither texts nor integers are maps, so there are no groups before and after.
      have hbefore : items.filterMap Value.entries? = [] := by
        rw [List.filterMap_eq_nil_iff]
        intro item hitem
        have htext := List.all_eq_true.mp htexts item hitem
        cases item <;> simp_all [Value.isIntegerText, Value.text?, Value.entries?]
      have hafter : (numbers.map Value.int).filterMap Value.entries? = [] := by
        rw [List.filterMap_eq_nil_iff]
        simp [Value.entries?]
      rw [Option.getD_some, hbefore]
      show List.filter _ (List.map _ (List.filterMap _ (numbers.map Value.int))) = _
      rw [hafter]

/-! ## Reading keys -/

variable (hseparator : compiler.settings.orSeparator.isEmpty = false)

include hseparator

/-- With a separator there is no failure in reading keys. -/
theorem parseKey_eq (key : String) : compiler.parseKey key = .ok (compiler.named? key) := by
  have hparse : ∃ parsed, compiler.parseKey key = .ok parsed := by
    rw [parseKey, FilterKey.parse]
    cases Predicate.find? compiler.settings.predicates key with
    | none => exact ⟨none, rfl⟩
    | some found =>
      simp only [FilterKey.splitFields, hseparator, Bool.false_eq_true, if_false]
      split
      · next h => cases h
      · exact ⟨none, rfl⟩
      · exact ⟨_, rfl⟩
  obtain ⟨parsed, hparsed⟩ := hparse
  rw [named?, hparsed]

/-! ## Building the clause -/

theorem groupEntry_eq (key value : Value) :
    compiler.groupEntry compiler.declared key.display value =
      match compiler.condition? (key, value) with
      | none => .ok none
      | some condition => (compiler.conditionClause condition).map some := by
  rw [groupEntry, parseKey_eq hseparator, condition?]
  split
  · rfl
  · cases compiler.named? key.display with
    | none => rfl
    | some parsed =>
      simp only [Option.map_some, conditionClause, typedValue]
      cases value.integers with
      | error e => rfl
      | ok read =>
        show (compiler.filterClause compiler.declared parsed read).bind _ = _
        rw [filterClause]
        show _ = Except.map some (Except.map _ (Value.coerce _ _ read))
        cases read.coerce (compiler.fieldType compiler.declared parsed)
          compiler.settings.dateParser <;> rfl

/-- The filters of a group are the clauses of its conditions. -/
theorem groupFilters_eq (entries : List (Value × Value)) :
    compiler.groupFilters compiler.declared entries =
      (compiler.conditions entries).mapM compiler.conditionClause := by
  induction entries with
  | nil => rfl
  | cons entry rest ih =>
    obtain ⟨key, value⟩ := entry
    rw [groupFilters, groupEntry_eq hseparator, ih, conditions, conditions, List.filterMap_cons]
    cases compiler.condition? (key, value) with
    | none =>
      show Except.bind _ _ = _
      cases List.mapM compiler.conditionClause (rest.filterMap compiler.condition?) <;> rfl
    | some condition =>
      simp only [List.mapM_cons]
      cases compiler.conditionClause condition with
      | error e => rfl
      | ok clause =>
        show Except.bind _ _ = Except.bind _ _
        cases List.mapM compiler.conditionClause (rest.filterMap compiler.condition?) <;> rfl

/-- The branches of groups are the clauses of those that have conditions. -/
theorem groupBranches_eq (groups : List Value) :
    compiler.groupBranches compiler.declared groups =
      (((groups.filterMap Value.entries?).map compiler.conditions).filter
        (fun group => !group.isEmpty)).mapM compiler.branch := by
  induction groups with
  | nil => rfl
  | cons group rest ih =>
    rw [List.filterMap_cons]
    cases group with
    | map entries =>
      simp only [groupBranches, groupFilters_eq hseparator, ih, Value.entries?, List.map_cons]
      generalize compiler.conditions entries = group
      generalize (rest.filterMap Value.entries?).map compiler.conditions = others
      show (group.mapM compiler.conditionClause).bind _ = _
      cases hfilters : group.mapM compiler.conditionClause with
      | error e =>
        -- Without conditions nothing fails, so this group is kept and fails in its place.
        cases group with
        | nil => cases hfilters
        | cons first conditions =>
          rw [List.filter_cons_of_pos (by rfl), List.mapM_cons, branch, hfilters]
          rfl
      | ok filters =>
        cases mapM_eq_ok hfilters with
        | nil =>
          rw [List.filter_cons_of_neg (by simp)]
          show Except.bind _ _ = _
          cases (others.filter fun group => !group.isEmpty).mapM compiler.branch <;> rfl
        | cons hfirst hrest =>
          rw [List.filter_cons_of_pos (by rfl), List.mapM_cons, branch, hfilters]
          show Except.bind _ _ = Except.bind _ _
          cases (others.filter fun group => !group.isEmpty).mapM compiler.branch <;> rfl
    | _ => exact ih

/-- The clause of groups is built from the groups that have conditions. -/
theorem groupClause_eq (value : Value) :
    compiler.groupClause compiler.declared value =
      ((compiler.conditionGroups value).mapM compiler.branch).map fun branches =>
        if branches.isEmpty then none else some (.anyOf branches) := by
  rw [groupClause, conditionGroups]
  cases groupsOf value with
  | none => rfl
  | some groups =>
    show (compiler.groupBranches compiler.declared groups).bind _ = _
    rw [groupBranches_eq hseparator, Option.getD_some]
    cases List.mapM compiler.branch _ <;> rfl

end SearchFilter.Compiler
