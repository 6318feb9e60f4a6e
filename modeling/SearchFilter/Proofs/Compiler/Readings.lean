import SearchFilter.Proofs.Compiler.Directives
import SearchFilter.Proofs.Compiler.Groups

/-!
# What can fail in compiling

When the sort directive has been read, two things can fail in compiling with a separator of field
names: reading the integers of a value, and reading a value for the field of a key.
`Compiler.readings` lists both in the order in which the compiler comes to them, through all
parameters and all groups.

`failure?_compile` is the result: compiling fails as the first of these readings that fails, and
succeeds if none does.
-/

namespace SearchFilter

/-- Something that the compiler reads and that may fail. -/
inductive Reading where
  /-- The integers of a value. -/
  | integers (value : Value)
  /-- A value, for the first field of a key. -/
  | typed (key : FilterKey) (value : Value)

namespace Compiler

/-- The failure of a reading, if it fails. -/
def readingFailure? (compiler : Compiler) : Reading → Option Failure
  | .integers value => failure? value.integers
  | .typed key value =>
    failure? (value.coerce (compiler.fieldType compiler.declared key)
      compiler.settings.dateParser)

/-- What is read for a condition. -/
def conditionReadings (condition : Condition) : List Reading :=
  [.integers condition.2, .typed condition.1 condition.2]

/-- What is read for the groups of a value. -/
def groupReadings (compiler : Compiler) (value : Value) : List Reading :=
  (compiler.conditionGroups value).flatMap fun group => group.flatMap conditionReadings

/-- What is read for a parameter that is no directive. -/
def entryReadings (compiler : Compiler) (entry : String × Value) : List Reading :=
  if entry.2.isBlank then []
  else .integers entry.2 :: match compiler.role entry.1 with
    | .ok (.filter key) => [.typed key entry.2]
    | .ok .groups => compiler.groupReadings entry.2
    | _ => []

/-- What is read for parameters, in order. -/
def readings (compiler : Compiler) (params : Params) : List Reading :=
  (clauseParams params).flatMap compiler.entryReadings

variable {compiler : Compiler}

/-! ## Readings one after the other -/

theorem findSome?_flatMap {α β γ : Type} (f : β → Option γ) (g : α → List β) (xs : List α) :
    (xs.flatMap g).findSome? f = xs.findSome? fun x => (g x).findSome? f := by
  induction xs with
  | nil => rfl
  | cons x xs ih =>
    rw [List.flatMap_cons, List.findSome?_append, ih, List.findSome?_cons]
    cases (g x).findSome? f <;> rfl

/-- Reading the integers of a value first makes no difference to whether it can be typed. -/
theorem failure?_coerce_of_integers {value read : Value} (h : value.integers = .ok read)
    (type : FieldType) (parser : DateParser) :
    failure? (read.coerce type parser) = failure? (value.coerce type parser) := by
  rcases integers_ok h with rfl | ⟨items, hitems, hread⟩
  · rfl
  · have hlist : ∃ others, read = .list others := by
      rcases hread with ⟨_, rfl⟩ | ⟨_, numbers, _, rfl⟩
      · exact ⟨items, rfl⟩
      · exact ⟨numbers.map .int, rfl⟩
    obtain ⟨others, rfl⟩ := hlist
    have hnone : ∀ v : Value, v.sequence?.isSome = true →
        failure? (v.coerce type parser) = none := by
      intro v hv
      unfold Value.coerce
      split
      · rfl
      · cases v <;> first | rfl | cases hv
    rw [hnone _ rfl, hnone _ (by rw [hitems]; rfl)]

theorem failure?_typedValue (condition : Condition) :
    failure? (compiler.typedValue condition.1 condition.2) =
      (conditionReadings condition).findSome? compiler.readingFailure? := by
  rw [typedValue, conditionReadings, List.findSome?_cons, List.findSome?_cons, readingFailure?,
    readingFailure?]
  cases hread : condition.2.integers with
  | error e => rfl
  | ok read =>
    show failure? (read.coerce _ _) = _
    rw [failure?_coerce_of_integers hread]
    cases failure? (condition.2.coerce _ _) <;> rfl

/-! ## One parameter -/

variable (hseparator : compiler.settings.orSeparator.isEmpty = false)

include hseparator

theorem exists_role (key : String) : ∃ role, compiler.role key = .ok role := by
  rw [role, parseKey_eq hseparator]
  split_ifs <;> exact ⟨_, rfl⟩

/-- The conditions of groups are read one after the other. -/
theorem failure?_groupClause (value : Value) :
    failure? (compiler.groupClause compiler.declared value) =
      (compiler.groupReadings value).findSome? compiler.readingFailure? := by
  have hbranch : ∀ group, failure? (compiler.branch group) =
      (group.flatMap conditionReadings).findSome? compiler.readingFailure? := by
    intro group
    rw [branch, failure?_map, failure?_mapM, findSome?_flatMap]
    congr 1
    funext condition
    rw [conditionClause, failure?_map, failure?_typedValue]
  rw [groupClause_eq hseparator, failure?_map, failure?_mapM, groupReadings, findSome?_flatMap]
  congr 1
  funext group
  exact hbranch group

/-- A parameter fails as the first of its readings that fails. -/
theorem failure?_contribution {key : String} (value : Value)
    (hnot : ¬ (key = sortKey ∨ key = modeKey)) :
    failure? (compiler.contribution compiler.declared key value) =
      (compiler.entryReadings (key, value)).findSome? compiler.readingFailure? := by
  obtain ⟨role, hrole⟩ := exists_role hseparator key
  rw [contribution_eq hnot, hrole, entryReadings, hrole]
  cases value.isBlank with
  | true => rfl
  | false =>
    simp only [Bool.false_eq_true, if_false, List.findSome?_cons, readingFailure?]
    cases hread : value.integers with
    | error e => rfl
    | ok read =>
      -- The parts are made of what has been read, the readings are listed for what was given.
      show failure? (compiler.part read role) = _
      cases role with
      | directive | unknown | freeText | words _ => rfl
      | groups =>
        rw [part, failure?_map, failure?_groupClause hseparator, groupReadings,
          conditionGroups_of_integers hread]
        rfl
      | filter parsed =>
        rw [part, failure?_map, filterClause, failure?_map, failure?_coerce_of_integers hread]
        show _ = List.findSome? compiler.readingFailure? [.typed parsed value]
        rw [List.findSome?_cons, readingFailure?]
        cases failure? (value.coerce _ _) <;> rfl

/-! ## All parameters -/

theorem failure?_contributions {params : Params}
    (hnot : ∀ entry ∈ params, ¬ (entry.1 = sortKey ∨ entry.1 = modeKey)) :
    (compiler.contributions compiler.declared params).2 =
      (params.flatMap compiler.entryReadings).findSome? compiler.readingFailure? := by
  induction params with
  | nil => rfl
  | cons entry rest ih =>
    obtain ⟨key, value⟩ := entry
    have hrest := ih fun e he => hnot e (List.mem_cons_of_mem _ he)
    have hfirst := failure?_contribution hseparator value (hnot (key, value) List.mem_cons_self)
    rw [List.flatMap_cons, List.findSome?_append, ← hfirst, ← hrest, contributions]
    cases compiler.contribution compiler.declared key value <;> rfl

/-- When the sort directive can be read, compiling fails as the first reading that fails, and
succeeds if none does. -/
theorem failure?_compile {schema : Option Schema} (hschema : compiler.model.schema = .ok schema)
    {params : Params} (hreadable : HasReadableSort params) (source : LocaleSource) :
    failure? (compiler.compile params source).1 =
      (compiler.readings params).findSome? compiler.readingFailure? := by
  have hdeclared : compiler.declared = schema.getD [] := declared_eq hschema
  obtain ⟨sort, hsort⟩ := exists_sortOf_iff.mpr hreadable
  rw [readings, ← failure?_contributions hseparator fun entry he => (mem_clauseParams.mp he).2,
    compile, hsort, hschema]
  simp only [compileWith, ← hdeclared]
  cases (compiler.contributions compiler.declared (clauseParams params)).2 <;> rfl

end Compiler

end SearchFilter
