import SearchFilter.Client

/-!
# Responses that answer a search

A response to a search is an object with the hits inside, which may leave out any of its parts, and
reports the number of all entries as a number or under a name (`Answers`).  The client makes a page
of every such response: `Answers.pageOf`.
-/

namespace SearchFilter.Client

open Value (field?)

/-- The number of entries that is reported: none, a number, or a number under a name that may be
missing. -/
inductive Tallies : Option Value → Int → Prop
  | absent : Tallies none 0
  | number (total : Int) : Tallies (some (.int total)) total
  | named {entries : List (Value × Value)} {total : Option Int}
      (hvalue : field? "value" entries = total.map .int) :
      Tallies (some (.map entries)) (total.getD 0)

/-- A response, the hits that are in it and the number of entries that it reports. -/
inductive Answers : Value → List Value → Int → Prop
  | intro {entries : List (Value × Value)} {outer : Option (List (Value × Value))}
      {hits : Option (List Value)} {total : Int}
      (houter : field? "hits" entries = outer.map .map)
      (hhits : field? "hits" (outer.getD []) = hits.map .list)
      (htotal : Tallies (field? "total" (outer.getD [])) total) :
      Answers (.map entries) (hits.getD []) total

theorem Tallies.exists_toInteger {outer : List (Value × Value)} {total : Int}
    (h : Tallies (field? "total" outer) total) :
    ∃ number, totalOf (.map outer) = .ok number ∧ number.toInteger = .ok total := by
  have hgetOr : (Value.map outer).getOr "total" (.int 0) =
      .ok ((field? "total" outer).getD (.int 0)) := rfl
  rw [totalOf, hgetOr]
  generalize field? "total" outer = reported at h
  cases h with
  | absent => exact ⟨.int 0, rfl, rfl⟩
  | number => exact ⟨.int total, rfl, rfl⟩
  | @named entries total hvalue =>
    refine ⟨.int (total.getD 0), ?_, rfl⟩
    show Except.ok ((field? "value" entries).getD (.int 0)) = _
    rw [hvalue]
    cases total <;> rfl

/-- The page made from a response has its hits and its number of entries. -/
theorem Answers.pageOf {response : Value} {hits : List Value} {total : Int}
    (h : Answers response hits total) (number perPage : Int) :
    pageOf response number perPage = .ok ⟨.list hits, total, perPage, number, response⟩ := by
  obtain @⟨entries, outer, hits, _, houter, hhits, htotal⟩ := h
  obtain ⟨count, htotal, hinteger⟩ := htotal.exists_toInteger
  have houter' : (Value.map entries).getOr "hits" (.map []) = .ok (.map (outer.getD [])) := by
    rw [Value.getOr, houter]
    cases outer <;> rfl
  have hhits' : (Value.map (outer.getD [])).getOr "hits" (.list []) =
      .ok (.list (hits.getD [])) := by
    rw [Value.getOr, hhits]
    cases hits <;> rfl
  simp only [Client.pageOf, houter', htotal, hhits', hinteger, Value.elements?, bind, Except.bind]
  rfl

end SearchFilter.Client
