import SearchFilter.Clause
import SearchFilter.Proofs.Lucene.ReadBack

/-!
# Wildcard patterns

In a wildcard pattern, as in query text, a backslash makes the next character stand for itself, so
`Lucene.marks` reads patterns too.

* An escaped text is read as its characters, of which those with a meaning of their own are literal
  (`marks_escapeWildcards`).
* `containedWord?` reads the word off a pattern `*word*`, and `wordsOn` all the words that a clause
  asks of a field in such patterns.  A clause that asks for the words of a value does ask for these
  words (`wordsOn_containing`).
-/

namespace SearchFilter.Clause

open Lucene (Mark marks marks_cons textOf between? between?_enclosed mapM_map_eq_some)

/-! ## Escaped text -/

/-- A character of a pattern that stands for itself. -/
def literalMark (c : Char) : Mark :=
  if isWildcard c then .literal c else .live c

theorem char_literalMark (c : Char) : (literalMark c).char = c := by
  rw [literalMark]
  split <;> rfl

theorem live_ne_literalMark {c : Char} (hc : isWildcard c = true) (d : Char) :
    .live c ≠ literalMark d := by
  rw [literalMark]
  split
  · exact fun h => nomatch h
  · next hd =>
    rintro ⟨⟩
    exact hd hc

/-- An escaped text is read as its characters, whatever follows. -/
theorem marks_escapeWildcards (cs rest : List Char) :
    marks (escapeWildcards cs ++ rest) = cs.map literalMark ++ marks rest := by
  induction cs with
  | nil => rfl
  | cons c cs ih =>
    rw [escapeWildcards, List.flatMap_cons, List.append_assoc, ← escapeWildcards, List.map_cons,
      literalMark]
    by_cases hc : isWildcard c = true
    · rw [if_pos hc, if_pos hc, List.cons_append, List.cons_append, List.nil_append, marks, ih]
      rfl
    · have hslash : c ≠ '\\' := by
        rintro rfl
        exact hc rfl
      rw [if_neg hc, if_neg hc, List.singleton_append, marks_cons hslash, ih]
      rfl

/-! ## Words in patterns -/

/-- The pattern `*word*`. -/
def containedPattern (word : String) : Value :=
  .text ("*" ++ literalPattern word ++ "*")

/-- The word of a pattern `*word*` with no other operator in it. -/
def containedWord? (pattern : Value) : Option String :=
  pattern.text?.bind fun text =>
    (between? '*' '*' (marks text.toList)).bind fun word =>
      if .live '*' ∈ word ∨ .live '?' ∈ word then none else some (textOf word)

/-- The marks of a pattern with a star in front of a literal text. -/
theorem marks_starred (word after : String) :
    marks ("*" ++ literalPattern word ++ after).toList =
      .live '*' :: (word.toList.map literalMark ++ marks after.toList) := by
  have hchars : ("*" ++ literalPattern word ++ after).toList =
      '*' :: (escapeWildcards word.toList ++ after.toList) := by
    simp [literalPattern]
  rw [hchars, marks_cons (by decide), marks_escapeWildcards]

/-- The word can be read off its pattern. -/
theorem containedWord?_containedPattern (word : String) :
    containedWord? (containedPattern word) = some word := by
  have hmarks : marks ("*" ++ literalPattern word ++ "*").toList =
      .live '*' :: (word.toList.map literalMark ++ [.live '*']) := marks_starred word "*"
  have hoperators : ¬ (.live '*' ∈ word.toList.map literalMark ∨
      .live '?' ∈ word.toList.map literalMark) := by
    rintro (hmem | hmem) <;> obtain ⟨c, _, hc⟩ := List.mem_map.mp hmem
    · exact live_ne_literalMark (by decide) c hc.symm
    · exact live_ne_literalMark (by decide) c hc.symm
  rw [containedWord?, containedPattern, Value.text?, Option.bind_some, hmarks, between?_enclosed,
    Option.bind_some, if_neg hoperators]
  simp [textOf, Function.comp_def, char_literalMark]

mutual

/-- The patterns that a clause requires of a field: of alternatives, those of the first that
requires any. -/
def patternsOn (field : String) : Clause → List Value
  | leaf (.wildcard name pattern) => if name = field then [pattern] else []
  | leaf _ => []
  | everything => []
  | allOf clauses => patternsOnAll field clauses
  | anyOf clauses => patternsOnFirst field clauses
  | noneOf _ => []
  | ranked ranking filters => patternsOnAll field ranking ++ patternsOnAll field filters

/-- The patterns that several clauses require of a field together. -/
def patternsOnAll (field : String) : List Clause → List Value
  | [] => []
  | clause :: clauses => patternsOn field clause ++ patternsOnAll field clauses

/-- The patterns that the first of several clauses with any requires of a field. -/
def patternsOnFirst (field : String) : List Clause → List Value
  | [] => []
  | clause :: clauses =>
    match patternsOn field clause with
    | [] => patternsOnFirst field clauses
    | patterns => patterns

end

/-- The words that a clause requires of a field as parts of words, if all that it requires in
patterns are such words. -/
def wordsOn (field : String) (clause : Clause) : Option (List String) :=
  (patternsOn field clause).mapM containedWord?

@[simp]
theorem wordsOn_allOf_singleton (field : String) (clause : Clause) :
    wordsOn field (allOf [clause]) = wordsOn field clause := by
  rw [wordsOn, patternsOn, patternsOnAll, patternsOnAll, List.append_nil, wordsOn]

@[simp]
theorem wordsOn_anyOf_singleton (field : String) (clause : Clause) :
    wordsOn field (anyOf [clause]) = wordsOn field clause := by
  rw [wordsOn, patternsOn, patternsOnFirst, patternsOnFirst, wordsOn]
  cases patternsOn field clause <;> rfl

/-! ## The clause for the words of a value -/

theorem patternsOnAll_wildcards (field name : String) (words : List String) :
    patternsOnAll field (words.map fun word =>
        leaf (.wildcard name (.text ("*" ++ literalPattern word ++ "*")))) =
      if name = field then words.map containedPattern else [] := by
  induction words with
  | nil => simp [patternsOnAll]
  | cons word rest ih =>
    rw [List.map_cons, patternsOnAll, ih, patternsOn]
    split <;> rfl

theorem patternsOnAll_phrases (field name : String) (words : List String) :
    patternsOnAll field (words.map fun word => leaf (.phrase name (.text word))) = [] := by
  induction words with
  | nil => rfl
  | cons word rest ih =>
    rw [List.map_cons, patternsOnAll, ih]
    rfl

/-- The patterns of the words of a value are required of the field that the clause is about, and
none of any other. -/
theorem patternsOn_containing (field name : String) (value : Value) :
    patternsOn field (containing name value) =
      if name = field then (Text.words value.display).map containedPattern else [] := by
  simp only [containing, patternsOn, patternsOnFirst, patternsOnAll_wildcards,
    patternsOnAll_phrases]
  split
  · next h => exact h.symm
  · rfl

theorem mapM_containedPattern (words : List String) :
    (words.map containedPattern).mapM containedWord? = some words := by
  rw [mapM_map_eq_some fun word _ => containedWord?_containedPattern word, List.map_id']

theorem wordsOn_containing (field : String) (value : Value) :
    wordsOn field (containing field value) = some (Text.words value.display) := by
  rw [wordsOn, patternsOn_containing, if_pos rfl, mapM_containedPattern]

/-- Asking another field, or the same one again, for the words makes no difference. -/
theorem wordsOn_anyOf_containing (field other : String) (value : Value) :
    wordsOn field (anyOf [containing field value, containing other value]) =
      some (Text.words value.display) := by
  rw [wordsOn, patternsOn, patternsOnFirst, patternsOnFirst, patternsOn_containing,
    patternsOn_containing, if_pos rfl, ← mapM_containedPattern]
  cases Text.words value.display with
  | nil => simp [patternsOnFirst]
  | cons word rest => rfl

end SearchFilter.Clause
