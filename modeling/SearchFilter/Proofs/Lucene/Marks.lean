import Mathlib.Data.List.Basic
import SearchFilter.Lucene

/-!
# Reading query text

A query text is read from left to right, and a backslash makes the next character stand for itself.
`marks` is that reading: every character is live or literal, and the backslashes are gone.

* `Complete` texts do not end in a backslash that waits for a character, so what follows them is
  read as if it stood alone (`Complete.append`, `marks_intercalate`).  A text that ends in anything
  but a backslash is complete (`complete_concat`).
* `escape` is complete (`complete_escapeChars`), nothing of it is lost or added
  (`char_marks_escapeChars`), and none of its live characters is an operator
  (`not_isOperator_of_live_mem`).
-/

namespace SearchFilter.Lucene

/-! ## Marks -/

/-- A character of a query text as it is read. -/
inductive Mark where
  /-- The character acts as an operator if it is one. -/
  | live (c : Char)
  /-- A backslash stood before the character. -/
  | literal (c : Char)
deriving DecidableEq, Repr

/-- The character itself. -/
def Mark.char : Mark → Char
  | live c => c
  | literal c => c

/-- The reading of a text.  A backslash at the very end stands for itself. -/
def marks : List Char → List Mark
  | '\\' :: c :: cs => .literal c :: marks cs
  | c :: cs => .live c :: marks cs
  | [] => []

@[simp]
theorem marks_nil : marks [] = [] := rfl

theorem marks_cons {c : Char} (hc : c ≠ '\\') (cs : List Char) :
    marks (c :: cs) = .live c :: marks cs := by
  rw [marks]
  intro d ds hd _
  exact hc hd

/-- The live characters of a text are characters of it. -/
theorem mem_of_live_mem_marks {cs : List Char} {c : Char} (h : .live c ∈ marks cs) : c ∈ cs := by
  fun_induction marks cs with
  | case1 d ds ih =>
    have hrest : .live c ∈ marks ds := by simpa using h
    exact List.mem_cons_of_mem _ (List.mem_cons_of_mem _ (ih hrest))
  | case2 d ds hd ih =>
    rcases List.mem_cons.mp h with hfirst | hrest
    · cases hfirst
      exact List.mem_cons_self
    · exact List.mem_cons_of_mem _ (ih hrest)
  | case3 => cases h

/-! ## Complete texts -/

/-- What follows the text is read as if the text were not there. -/
def Complete (cs : List Char) : Prop :=
  ∀ rest, marks (cs ++ rest) = marks cs ++ marks rest

theorem complete_nil : Complete [] := fun _ => rfl

theorem Complete.append {xs ys : List Char} (hx : Complete xs) (hy : Complete ys) :
    Complete (xs ++ ys) := by
  intro rest
  rw [List.append_assoc, hx, hy, hx, List.append_assoc]

theorem marks_append_cons {c : Char} (hc : c ≠ '\\') (cs rest : List Char) :
    marks (cs ++ c :: rest) = marks (cs ++ [c]) ++ marks rest := by
  fun_induction marks cs with
  | case1 d ds ih =>
    simp only [List.cons_append, marks, ih]
  | case2 d ds hd ih =>
    by_cases hslash : d = '\\'
    · subst hslash
      cases ds with
      | nil => rfl
      | cons e es => exact absurd rfl (hd e es rfl)
    · rw [List.cons_append, marks_cons hslash, ih, List.cons_append, marks_cons hslash]
      rfl
  | case3 =>
    rw [List.nil_append, marks_cons hc, List.nil_append, marks_cons hc]
    rfl

/-- A text that ends in anything but a backslash is complete. -/
theorem complete_concat {c : Char} (hc : c ≠ '\\') (cs : List Char) : Complete (cs ++ [c]) := by
  intro rest
  rw [List.append_assoc, List.singleton_append, marks_append_cons hc]

theorem complete_singleton {c : Char} (hc : c ≠ '\\') : Complete [c] :=
  complete_concat hc []

/-- Without backslashes a text is complete, and all of it is live. -/
theorem marks_of_not_mem {cs : List Char} (hcs : '\\' ∉ cs) : marks cs = cs.map .live := by
  induction cs with
  | nil => rfl
  | cons c cs ih =>
    have hc : c ≠ '\\' := fun h => hcs (h ▸ List.mem_cons_self)
    rw [marks_cons hc, ih fun h => hcs (List.mem_cons_of_mem _ h), List.map_cons]

theorem complete_of_not_mem {cs : List Char} (hcs : '\\' ∉ cs) : Complete cs := by
  induction cs with
  | nil => exact complete_nil
  | cons c cs ih =>
    have hc : c ≠ '\\' := fun h => hcs (h ▸ List.mem_cons_self)
    exact (complete_singleton hc).append (ih fun h => hcs (List.mem_cons_of_mem _ h))

/-- Complete pieces are read one by one. -/
theorem marks_intercalate {separator : List Char} (hseparator : Complete separator)
    {pieces : List (List Char)} (h : ∀ piece ∈ pieces, Complete piece) :
    marks (separator.intercalate pieces) = (marks separator).intercalate (pieces.map marks) := by
  induction pieces with
  | nil => rfl
  | cons piece rest ih =>
    have hfirst : Complete piece := h piece List.mem_cons_self
    have hrest := ih fun p hp => h p (List.mem_cons_of_mem _ hp)
    cases rest with
    | nil => simp
    | cons next rest =>
      rw [List.intercalate_cons_cons, List.append_assoc, hfirst, hseparator, hrest,
        List.map_cons, List.map_cons, List.map_cons, List.intercalate_cons_cons,
        List.append_assoc]

/-! ## Escaped text -/

theorem ne_backslash_of_not_isOperator {c : Char} (hc : isOperator c = false) : c ≠ '\\' := by
  rintro rfl
  exact absurd hc (by decide)

/-- The reading of an escaped text, whatever follows: the characters of the text, of which those
that are live are no operators. -/
private theorem exists_marks_escapeChars (cs : List Char) :
    ∃ ms : List Mark, (∀ rest, marks (escapeChars cs ++ rest) = ms ++ marks rest) ∧
      ms.map Mark.char = cs ∧ ∀ c, .live c ∈ ms → isOperator c = false := by
  -- The cases of `escapeChars`: the end, `&&`, `||`, an operator of one character, anything else.
  fun_induction escapeChars cs with
  | case1 => exact ⟨[], fun rest => rfl, rfl, by simp⟩
  | case2 cs ih =>
    obtain ⟨ms, hmarks, hchars, hlive⟩ := ih
    refine ⟨.literal '&' :: .live '&' :: ms, ?_, by simp [Mark.char, hchars], ?_⟩
    · intro rest
      show .literal '&' :: marks ('&' :: (escapeChars cs ++ rest)) = _
      rw [marks_cons (by decide), hmarks]
      rfl
    · simpa [show isOperator '&' = false by decide] using hlive
  | case3 cs ih =>
    obtain ⟨ms, hmarks, hchars, hlive⟩ := ih
    refine ⟨.literal '|' :: .live '|' :: ms, ?_, by simp [Mark.char, hchars], ?_⟩
    · intro rest
      show .literal '|' :: marks ('|' :: (escapeChars cs ++ rest)) = _
      rw [marks_cons (by decide), hmarks]
      rfl
    · simpa [show isOperator '|' = false by decide] using hlive
  | case4 c cs _ _ hop ih =>
    obtain ⟨ms, hmarks, hchars, hlive⟩ := ih
    refine ⟨.literal c :: ms, ?_, by simp [Mark.char, hchars], by simpa using hlive⟩
    intro rest
    show .literal c :: marks (escapeChars cs ++ rest) = _
    rw [hmarks]
    rfl
  | case5 c cs _ _ hop ih =>
    obtain ⟨ms, hmarks, hchars, hlive⟩ := ih
    have hc : isOperator c = false := by simpa using hop
    refine ⟨.live c :: ms, ?_, by simp [Mark.char, hchars], by simpa [hc] using hlive⟩
    intro rest
    rw [List.cons_append, marks_cons (ne_backslash_of_not_isOperator hc), hmarks]
    rfl

theorem complete_escapeChars (cs : List Char) : Complete (escapeChars cs) := by
  obtain ⟨ms, hmarks, -, -⟩ := exists_marks_escapeChars cs
  have hself : marks (escapeChars cs) = ms := by simpa using hmarks []
  intro rest
  rw [hmarks, hself]

/-- Escaping loses no character and adds none. -/
theorem char_marks_escapeChars (cs : List Char) : (marks (escapeChars cs)).map Mark.char = cs := by
  obtain ⟨ms, hmarks, hchars, -⟩ := exists_marks_escapeChars cs
  have hself : marks (escapeChars cs) = ms := by simpa using hmarks []
  rw [hself, hchars]

theorem mem_of_live_mem {cs : List Char} {c : Char} (h : .live c ∈ marks (escapeChars cs)) :
    c ∈ cs := by
  have hchar : Mark.char (.live c) ∈ (marks (escapeChars cs)).map Mark.char :=
    List.mem_map_of_mem h
  rwa [char_marks_escapeChars] at hchar

/-- The live characters of an escaped text are no operators. -/
theorem not_isOperator_of_live_mem {cs : List Char} {c : Char}
    (h : .live c ∈ marks (escapeChars cs)) : isOperator c = false := by
  obtain ⟨ms, hmarks, -, hlive⟩ := exists_marks_escapeChars cs
  have hself : marks (escapeChars cs) = ms := by simpa using hmarks []
  exact hlive c (hself ▸ h)

/-! ## Terms as characters -/

/-- What a term asks of a field for one word: the word as part of a word, between stars, or the word
itself, between quotes. -/
def conjunct (mark : Char) (field word : List Char) : List Char :=
  (field ++ [':']) ++ ([mark] ++ (escapeChars word ++ [mark]))

/-- What a term asks of a field for all words in one of the two ways. -/
def half (mark : Char) (field : List Char) (words : List (List Char)) : List Char :=
  [' ', 'A', 'N', 'D', ' '].intercalate (words.map (conjunct mark field))

/-- A text in parentheses. -/
def enclosed (cs : List Char) : List Char :=
  ['('] ++ (cs ++ [')'])

theorem complete_enclosed {cs : List Char} (hcs : Complete cs) : Complete (enclosed cs) :=
  (complete_singleton (by decide)).append (hcs.append (complete_singleton (by decide)))

theorem marks_enclosed {cs : List Char} (hcs : Complete cs) :
    marks (enclosed cs) = .live '(' :: (marks cs ++ [.live ')']) := by
  rw [enclosed, List.singleton_append, marks_cons (by decide), hcs]
  rfl

/-- The separator of alternatives. -/
def orChars : List Char := [' ', 'O', 'R', ' ']

theorem toList_fieldTerm (field : String) (words : List String) :
    (fieldTerm field words).toList =
      enclosed (half '*' field.toList (words.map String.toList)) ++
        (orChars ++ enclosed (half '"' field.toList (words.map String.toList))) := by
  have hhalf : ∀ (opening closing : String) (mark : Char), opening.toList = [':', mark] →
      closing.toList = [mark] →
      (" AND ".intercalate ((words.map escape).map fun part =>
        field ++ opening ++ part ++ closing)).toList =
        half mark field.toList (words.map String.toList) := by
    intro opening closing mark hopening hclosing
    rw [String.toList_intercalate, half, List.map_map, List.map_map, List.map_map]
    congr 1
    refine List.map_congr_left fun word _ => ?_
    simp [conjunct, escape, hopening, hclosing]
  have hstars := hhalf ":*" "*" '*' rfl rfl
  have hquotes := hhalf ":\"" "\"" '"' rfl rfl
  simp only [fieldTerm, String.toList_append, hstars, hquotes]
  simp [enclosed, orChars]

theorem toList_anyOf (terms : List String) :
    (anyOf terms).toList = orChars.intercalate (terms.map fun term => enclosed term.toList) := by
  rw [anyOf, String.toList_intercalate, List.map_map]
  congr 1
  refine List.map_congr_left fun term _ => ?_
  simp [enclosed]

end SearchFilter.Lucene
