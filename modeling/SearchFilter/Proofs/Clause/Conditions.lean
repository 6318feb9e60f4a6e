import SearchFilter.Compiler
import SearchFilter.Proofs.Value.Display

/-!
# Clauses with conditions

A bool node whose lists of queries are empty says nothing about a document: nothing is required or
excluded, or nothing can be satisfied.  `Value.hasConditions` looks for such nodes in the form in
which a query is sent, and takes leaves for what they are.

* `Clause.HasConditions` is the same of a clause; one lemma for each kind of clause says what it
  means.
* `hasConditions_joined` is about the clauses that keys make: they have conditions if the key names
  a field and the value has words.
-/

namespace SearchFilter

/-! ## Reading the form sent -/

namespace Value

mutual

/-- Whether a query in the form sent asks for something: it is no match-all, and no bool node in it
has an empty list of queries or no list at all. -/
def hasConditions : Value → Bool
  | .map [(.text "match_all", _)] => false
  | .map [(.text "bool", .map parts)] => !parts.isEmpty && partsHaveConditions parts
  | _ => true

/-- Whether each list of queries among the parts of a bool node has queries that ask for
something. -/
def partsHaveConditions : List (Value × Value) → Bool
  | [] => true
  | (_, .list queries) :: rest =>
    !queries.isEmpty && allHaveConditions queries && partsHaveConditions rest
  | _ :: rest => partsHaveConditions rest

/-- Whether all queries ask for something. -/
def allHaveConditions : List Value → Bool
  | [] => true
  | query :: rest => hasConditions query && allHaveConditions rest

end

end Value

/-! ## Clauses -/

/-- A clause has conditions when the query that it is sent as has. -/
def Clause.HasConditions (clause : Clause) : Prop :=
  clause.toValue.hasConditions = true

instance (clause : Clause) : Decidable clause.HasConditions :=
  inferInstanceAs (Decidable (_ = true))

theorem allHaveConditions_toValues {clauses : List Clause} :
    Value.allHaveConditions (Clause.toValues clauses) = true ↔
      ∀ clause ∈ clauses, clause.HasConditions := by
  induction clauses with
  | nil => simp [Clause.toValues, Value.allHaveConditions]
  | cons clause rest ih =>
    rw [Clause.toValues, Value.allHaveConditions, Bool.and_eq_true, ih, List.forall_mem_cons]
    rfl

/-- A part of a bool node has conditions if it has clauses and all of them have conditions. -/
theorem partsHaveConditions_toValues {key : Value} {clauses : List Clause}
    {rest : List (Value × Value)} :
    Value.partsHaveConditions ((key, .list (Clause.toValues clauses)) :: rest) = true ↔
      (clauses ≠ [] ∧ ∀ clause ∈ clauses, clause.HasConditions) ∧
        Value.partsHaveConditions rest = true := by
  have hempty : (Clause.toValues clauses).isEmpty = clauses.isEmpty := by
    cases clauses <;> rfl
  rw [Value.partsHaveConditions, Bool.and_eq_true, Bool.and_eq_true, allHaveConditions_toValues,
    hempty]
  simp

namespace Clause

@[simp]
theorem not_hasConditions_everything : ¬ everything.HasConditions := by
  decide

@[simp]
theorem hasConditions_allOf {clauses : List Clause} :
    (allOf clauses).HasConditions ↔ clauses ≠ [] ∧ ∀ clause ∈ clauses, clause.HasConditions := by
  have hparts : (allOf clauses).HasConditions ↔ Value.partsHaveConditions
      [(.text "filter", .list (toValues clauses))] = true := Iff.rfl
  rw [hparts, partsHaveConditions_toValues]
  exact and_iff_left rfl

@[simp]
theorem hasConditions_anyOf {clauses : List Clause} :
    (anyOf clauses).HasConditions ↔ clauses ≠ [] ∧ ∀ clause ∈ clauses, clause.HasConditions := by
  have hparts : (anyOf clauses).HasConditions ↔ Value.partsHaveConditions
      [(.text "should", .list (toValues clauses)), (.text "minimum_should_match", .int 1)] =
        true := Iff.rfl
  rw [hparts, partsHaveConditions_toValues]
  exact and_iff_left rfl

@[simp]
theorem hasConditions_noneOf {clauses : List Clause} :
    (noneOf clauses).HasConditions ↔ clauses ≠ [] ∧ ∀ clause ∈ clauses, clause.HasConditions := by
  have hparts : (noneOf clauses).HasConditions ↔ Value.partsHaveConditions
      [(.text "must_not", .list (toValues clauses))] = true := Iff.rfl
  rw [hparts, partsHaveConditions_toValues]
  exact and_iff_left rfl

@[simp]
theorem hasConditions_ranked {ranking filters : List Clause} :
    (ranked ranking filters).HasConditions ↔
      (ranking ≠ [] ∧ ∀ clause ∈ ranking, clause.HasConditions) ∧
        filters ≠ [] ∧ ∀ clause ∈ filters, clause.HasConditions := by
  have hparts : (ranked ranking filters).HasConditions ↔ Value.partsHaveConditions
      [(.text "must", .list (toValues ranking)), (.text "filter", .list (toValues filters))] =
        true := Iff.rfl
  rw [hparts, partsHaveConditions_toValues, partsHaveConditions_toValues]
  exact and_congr_right fun _ => and_iff_left rfl

/-- A question is sent as no node. -/
theorem hasConditions_leaf {question : Leaf} (hnamed : ∀ body, question ≠ .given body) :
    (leaf question).HasConditions := by
  cases question with
  | given body => exact absurd rfl (hnamed body)
  | _ => simp [HasConditions, toValue, Leaf.toValue, Value.entry, Value.record,
      Value.hasConditions]

/-! ## Clauses of keys -/

theorem hasConditions_containing {field : String} {value : Value}
    (hwords : Text.words value.display ≠ []) : (containing field value).HasConditions := by
  simp [containing, hwords, hasConditions_leaf]

theorem hasConditions_presence (field : String) (flag : Bool) :
    (if flag = true then present field else absent field).HasConditions := by
  cases flag <;> simp [present, absent, hasConditions_leaf]

theorem hasConditions_absence (field : String) (flag : Bool) :
    (if flag = true then absent field else present field).HasConditions := by
  cases flag <;> simp [present, absent, hasConditions_leaf]

end Clause

/-- Only the clauses for words depend on the value: there is one condition for each word. -/
theorem hasConditions_clause (comparison : Comparison) (field : String) {value : Value}
    (hwords : Text.words value.display ≠ []) :
    (comparison.clause field value).HasConditions := by
  cases comparison <;>
    simp [Comparison.clause, Clause.hasConditions_containing hwords,
      Clause.hasConditions_presence, Clause.hasConditions_absence, Clause.hasConditions_leaf,
      Clause.term, Clause.among, Clause.bounded, Clause.endingWith]

theorem hasConditions_joined {key : FilterKey} (hfields : key.fields ≠ []) {value : Value}
    (hwords : Text.words value.display ≠ []) : (Compiler.joined key value).HasConditions := by
  have hclauses : ∀ clause ∈ Compiler.fieldClauses key value, clause.HasConditions := by
    rw [Compiler.fieldClauses, List.forall_mem_map]
    exact fun field _ => hasConditions_clause _ field hwords
  rw [Compiler.joined]
  split
  · next clause hclause => exact hclauses clause (by simp [hclause])
  · rw [Clause.hasConditions_anyOf]
    exact ⟨by simpa [Compiler.fieldClauses] using hfields, hclauses⟩

end SearchFilter
