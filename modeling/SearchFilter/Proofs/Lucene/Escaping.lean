import SearchFilter.Proofs.Lucene.EmptyGroups
import SearchFilter.Proofs.Lucene.Operators
import SearchFilter.Proofs.Lucene.ReadBack

/-!
# Undoing escapes, and escaping words

An escaped text is read as the text itself, so escaping loses nothing (`unescape_escape`).  It adds
no blanks, and it looks at no more than two characters at a time, of which neither is blank.  So the
words of an escaped text are the escaped words (`words_escape`): the induction is on the escaping,
for the pieces between single blanks (`pieces_escapeChars`).
-/

namespace SearchFilter.Lucene

open SearchFilter.Text

/-- A text without the backslashes that escape a character, read from left to right. -/
def unescape (text : String) : String :=
  textOf (marks text.toList)

theorem unescape_escape (text : String) : unescape (escape text) = text := by
  rw [unescape, escape, String.toList_ofList, textOf_escapeChars, String.ofList_toList]

/-! ## One character -/

section Characters

variable {c : Char}

theorem escapeChars_cons_of_isOperator (hc : isOperator c = true) (cs : List Char) :
    escapeChars (c :: cs) = '\\' :: c :: escapeChars cs := by
  have hne : c ≠ '&' ∧ c ≠ '|' := by
    constructor <;> rintro rfl <;> exact absurd hc (by decide)
  rw [escapeChars, if_pos hc]
  · intro _ hamp _
    exact hne.1 hamp
  · intro _ hbar _
    exact hne.2 hbar

/-- What is no operator stays as it is, unless it begins a pair. -/
theorem escapeChars_cons_of_alone (hc : isOperator c = false) {cs : List Char}
    (halone : c ∈ pairOperators → cs.head? ≠ some c) :
    escapeChars (c :: cs) = c :: escapeChars cs := by
  rw [escapeChars, if_neg (by simp [hc])]
  · rintro rest rfl rfl
    exact halone (by decide) rfl
  · rintro rest rfl rfl
    exact halone (by decide) rfl

theorem isEmpty_escapeChars (cs : List Char) : (escapeChars cs).isEmpty = cs.isEmpty := by
  fun_cases escapeChars cs <;> rfl

end Characters

/-! ## Words -/

/-- Escaping goes through the pieces between blanks one by one. -/
theorem pieces_escapeChars (cs : List Char) :
    pieces isBlank (escapeChars cs) = (pieces isBlank cs).map escapeChars := by
  fun_induction escapeChars cs with
  | case1 => rfl
  | case2 cs ih | case3 cs ih =>
    obtain ⟨word, rest, hpieces⟩ := List.exists_cons_of_ne_nil (pieces_ne_nil isBlank cs)
    rw [hpieces, List.map_cons] at ih
    rw [pieces_cons_of_not (by decide) (pieces_cons_of_not (by decide)
        (pieces_cons_of_not (by decide) ih)),
      pieces_cons_of_not (by decide) (pieces_cons_of_not (by decide) hpieces)]
    rfl
  | case4 c cs _ _ hop ih =>
    obtain ⟨word, rest, hpieces⟩ := List.exists_cons_of_ne_nil (pieces_ne_nil isBlank cs)
    have hkept : isBlank c = false := not_isBlank_of_isOperator hop
    rw [hpieces, List.map_cons] at ih
    rw [pieces_cons_of_not (by decide) (pieces_cons_of_not hkept ih),
      pieces_cons_of_not hkept hpieces, List.map_cons, escapeChars_cons_of_isOperator hop]
  | case5 c cs hamp hbar hop ih =>
    by_cases hblank : isBlank c = true
    · rw [pieces, if_pos hblank, pieces, if_pos hblank, ih]
      rfl
    · obtain ⟨word, rest, hpieces⟩ := List.exists_cons_of_ne_nil (pieces_ne_nil isBlank cs)
      have hkept : isBlank c = false := by simpa using hblank
      -- The word goes on with the character that comes next, so no pair begins in it either.
      have halone : c ∈ pairOperators → word.head? ≠ some c := fun hc hhead =>
        head?_ne_of_not_pair hc hamp hbar (head?_of_pieces_eq_cons hpieces hhead)
      rw [hpieces, List.map_cons] at ih
      rw [pieces_cons_of_not hkept ih, pieces_cons_of_not hkept hpieces, List.map_cons,
        escapeChars_cons_of_alone (by simpa using hop) halone]

theorem wordsOf_escapeChars (cs : List Char) :
    wordsOf (escapeChars cs) = (wordsOf cs).map escapeChars := by
  unfold wordsOf
  rw [pieces_escapeChars, List.filter_map]
  refine congrArg (List.map escapeChars) (List.filter_congr fun word _ => ?_)
  show (!(escapeChars word).isEmpty) = !word.isEmpty
  rw [isEmpty_escapeChars]

/-- The words of an escaped text are the escaped words of the text. -/
theorem words_escape (text : String) : words (escape text) = (words text).map escape := by
  rw [words, words, escape, String.toList_ofList, wordsOf_escapeChars, List.map_map, List.map_map]
  refine List.map_congr_left fun word _ => ?_
  show String.ofList (escapeChars word) = escape (String.ofList word)
  rw [escape, String.toList_ofList]

/-- Escaping can be undone, so different texts stay different, and it makes no difference whether a
text is escaped before it is cut into words or afterwards. -/
theorem escape_leftInverse_words :
    Function.LeftInverse unescape escape ∧ Function.Injective escape ∧
      ∀ text, words (escape text) = (words text).map escape :=
  ⟨unescape_escape, Function.LeftInverse.injective unescape_escape, words_escape⟩

example : words (escape "a&&b (c\t&&& \\") = ["a\\&&b", "\\(c", "\\&&&", "\\\\"] := by
  decide +kernel

end SearchFilter.Lucene
