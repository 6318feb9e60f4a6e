import SearchFilter.Compiler
import SearchFilter.Proofs.Json.Writable

/-!
# Queries that have a JSON form

A clause can be sent when the values in it can be written.  `writable_clause` says that the clauses
of predicates only have values in them that come from the value compared with, and `writable_body`
that the request body of a compiled query of such clauses can be written.
-/

namespace SearchFilter

open Json (Writable writable_record)

/-! ## Nodes and questions -/

theorem writable_entry {name : String} {value : Value} (h : Writable value) :
    Writable (.entry name value) :=
  writable_record (by simpa using h)

theorem writable_toValues {clauses : List Clause}
    (h : ∀ clause ∈ clauses, Writable clause.toValue) :
    Writable (.list (Clause.toValues clauses)) := by
  refine .list fun value hvalue => ?_
  induction clauses with
  | nil => exact absurd hvalue List.not_mem_nil
  | cons clause rest ih =>
    rw [Clause.toValues] at hvalue
    rcases List.mem_cons.mp hvalue with rfl | hrest
    · exact h clause List.mem_cons_self
    · exact ih (fun c hc => h c (List.mem_cons_of_mem _ hc)) hrest

namespace Clause

variable {clauses : List Clause} (h : ∀ clause ∈ clauses, Writable clause.toValue)

include h

theorem writable_allOf : Writable (allOf clauses).toValue := by
  rw [toValue]
  exact writable_entry (writable_record (by simpa using writable_toValues h))

theorem writable_anyOf : Writable (anyOf clauses).toValue := by
  have hone : Writable (.int 1) := .int (by decide)
  rw [toValue]
  exact writable_entry (writable_record (by simpa using ⟨writable_toValues h, hone⟩))

theorem writable_noneOf : Writable (noneOf clauses).toValue := by
  rw [toValue]
  exact writable_entry (writable_record (by simpa using writable_toValues h))

theorem writable_ranked {ranking : List Clause}
    (hranking : ∀ clause ∈ ranking, Writable clause.toValue) :
    Writable (ranked ranking clauses).toValue := by
  rw [toValue]
  exact writable_entry (writable_record (by
    simpa using ⟨writable_toValues hranking, writable_toValues h⟩))

end Clause

/-! ## Predicates -/

/-- The values listed by a value are texts or parts of it. -/
theorem writable_of_mem_listed {value item : Value} (hvalue : Writable value)
    (hitem : item ∈ Clause.listed value) : Writable item := by
  have htexts : ∀ parts : List String, item ∈ parts.map Value.text → Writable item := by
    intro parts hmem
    obtain ⟨part, _, rfl⟩ := List.mem_map.mp hmem
    exact .text part
  rw [Clause.listed] at hitem
  split at hitem
  · exact htexts _ hitem
  · cases hvalue with
    | list hitems | tuple hitems => exact hitems item hitem
    | _ =>
      cases List.mem_singleton.mp hitem
      constructor <;> assumption

theorem writable_present (field : String) : Writable (Clause.present field).toValue :=
  writable_entry (writable_entry (.text field))

theorem writable_absent (field : String) : Writable (Clause.absent field).toValue :=
  Clause.writable_noneOf (by simpa using writable_present field)

theorem writable_containing (field : String) (value : Value) :
    Writable (Clause.containing field value).toValue := by
  refine Clause.writable_anyOf ?_
  simp only [List.mem_cons, List.not_mem_nil, or_false, forall_eq_or_imp, forall_eq]
  constructor
  · refine Clause.writable_allOf ?_
    rw [List.forall_mem_map]
    exact fun word _ => writable_entry (writable_entry (writable_entry (.text _)))
  · refine Clause.writable_allOf ?_
    rw [List.forall_mem_map]
    exact fun word _ => writable_entry (writable_entry (.text _))

/-- The clause of a comparison can be sent when the value can be written. -/
theorem writable_clause {value : Value} (hvalue : Writable value) (comparison : Comparison)
    (field : String) : Writable (comparison.clause field value).toValue := by
  have hterm : Writable (Clause.term field value).toValue := writable_entry (writable_entry hvalue)
  have hamong : Writable (Clause.among field value).toValue :=
    writable_entry (writable_entry (.list fun _ hitem => writable_of_mem_listed hvalue hitem))
  have hbounded : ∀ bound, Writable (Clause.bounded field bound value).toValue := fun bound =>
    writable_entry (writable_entry (writable_record (by simpa using hvalue)))
  have hcontaining := writable_containing field value
  cases comparison with
  | equal => exact hterm
  | different => exact Clause.writable_noneOf (by simpa using hterm)
  | among => exact hamong
  | notAmong => exact Clause.writable_noneOf (by simpa using hamong)
  | atLeast | above | atMost | below => exact hbounded _
  | containing => exact hcontaining
  | notContaining => exact Clause.writable_noneOf (by simpa using hcontaining)
  | beginning => exact writable_entry (writable_entry (.text _))
  | ending => exact writable_entry (writable_entry (writable_entry (.text _)))
  | present | absent =>
    rw [Comparison.clause]
    split
    · first | exact writable_present field | exact writable_absent field
    · first | exact writable_present field | exact writable_absent field

theorem writable_joined {value : Value} (hvalue : Writable value) (key : FilterKey) :
    Writable (Compiler.joined key value).toValue := by
  have hall : ∀ clause ∈ Compiler.fieldClauses key value, Writable clause.toValue := by
    rw [Compiler.fieldClauses, List.forall_mem_map]
    exact fun field _ => writable_clause hvalue key.predicate.comparison field
  rw [Compiler.joined]
  split
  · next clause hclause => exact hall clause (by simp [hclause])
  · exact Clause.writable_anyOf hall

/-! ## Compiled queries -/

namespace CompiledQuery

variable {compiled : CompiledQuery}

theorem writable_query (hfreeText : ∀ clause ∈ compiled.freeText, Writable clause.toValue)
    (hfilters : ∀ clause ∈ compiled.filters, Writable clause.toValue) :
    Writable compiled.query.toValue := by
  obtain ⟨freeText, filters, sort, fields⟩ := compiled
  cases freeText with
  | some text =>
    have htext : Writable text.toValue := hfreeText text rfl
    cases filters with
    | nil => exact htext
    | cons filter rest => exact Clause.writable_ranked hfilters (by simpa using htext)
  | none =>
    cases filters with
    | nil => exact writable_entry (writable_record (by simp))
    | cons filter rest => exact Clause.writable_allOf hfilters

/-- The request body of a compiled query of writable clauses is writable. -/
theorem writable_body (hfreeText : ∀ clause ∈ compiled.freeText, Writable clause.toValue)
    (hfilters : ∀ clause ∈ compiled.filters, Writable clause.toValue) : Writable compiled.body := by
  have hquery := writable_query hfreeText hfilters
  have hsort : Writable (.list (compiled.sort.map SortField.toValue)) := by
    refine .list ?_
    rw [List.forall_mem_map]
    exact fun criterion _ => writable_record (by simpa using .text _)
  have hsource : ∀ part ∈ compiled.sourcePart, Writable part.2 := by
    rw [sourcePart]
    split
    · simp only [List.mem_singleton, forall_eq]
      refine .list ?_
      rw [List.forall_mem_map]
      exact fun field _ => .text field
    · simp
  refine writable_record ?_
  rw [bodyFields, List.forall_mem_append]
  exact ⟨by simpa using ⟨hquery, hsort⟩, hsource⟩

end CompiledQuery

end SearchFilter
