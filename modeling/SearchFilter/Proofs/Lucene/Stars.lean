import SearchFilter.Proofs.Lucene.ReadBack

/-!
# The parts of words that a query text asks for

A term on a field first asks for all its words as parts of words, in the form
`(field:*word* AND field:*word*)`.  `starredWords` reads the words off a text of one such term.  It
knows the name of the field, which may have any characters in it, and nothing else of the text:
`starredWords_anyOf` says that the words it finds are those that were written.

`readTerms` reads whole texts, of any number of terms, but only for names that need no escaping.
-/

namespace SearchFilter.Lucene

/-! ## The reader -/

/-- What stands after a beginning up to the next live star, and what stands after the star. -/
def readStarred? (beginning ms : List Mark) : Option (List Mark × List Mark) :=
  (ms.dropPrefix? beginning).bind fun rest =>
    match rest.dropWhile (· ≠ .live '*') with
    | [] => none
    | _ :: after => some (rest.takeWhile (· ≠ .live '*'), after)

theorem length_lt_of_readStarred? {beginning ms word after : List Mark}
    (h : readStarred? beginning ms = some (word, after)) : after.length < ms.length := by
  obtain ⟨rest, hrest, hread⟩ := Option.bind_eq_some_iff.mp h
  obtain ⟨dropped, rfl, _⟩ := List.dropPrefix?_eq_some_iff.mp hrest
  have hle := (List.dropWhile_suffix (· ≠ Mark.live '*') (l := rest)).length_le
  rw [List.length_append]
  split at hread
  · cases hread
  · next star others hdrop =>
    cases hread
    rw [hdrop, List.length_cons] at hle
    omega

/-- The words asked for one after the other, each behind the same beginning, up to a closing
parenthesis. -/
def readStars (beginning ms : List Mark) : Option (List String) :=
  match _hread : readStarred? beginning ms with
  | none => none
  | some (word, after) =>
    match _hmore : after.dropPrefix? andMarks with
    | some more => (readStars beginning more).map (textOf word :: ·)
    | none => if after.head? = some (.live ')') then some [textOf word] else none
termination_by ms.length
decreasing_by
  obtain ⟨dropped, rfl, _⟩ := List.dropPrefix?_eq_some_iff.mp _hmore
  have hlt := length_lt_of_readStarred? _hread
  rw [List.length_append] at hlt
  omega

/-- The words that a text of one term asks a field for, as parts of words. -/
def starredWords (field text : String) : Option (List String) :=
  match marks text.toList with
  | .live '(' :: .live '(' :: ms => readStars (marks (field.toList ++ [':', '*'])) ms
  | _ => none

/-! ## Reading what was written -/

section Reading

variable {beginning : List Mark}

theorem dropPrefix?_append (xs ys : List Mark) : (xs ++ ys).dropPrefix? xs = some ys :=
  List.dropPrefix?_eq_some_iff.mpr ⟨xs, rfl, beq_self_eq_true xs⟩

theorem readStarred?_append {word : List Mark} (hword : .live '*' ∉ word) (after : List Mark) :
    readStarred? beginning (beginning ++ (word ++ .live '*' :: after)) = some (word, after) := by
  have hkeep : ∀ m ∈ word, (decide (m ≠ .live '*')) = true := by
    intro m hm
    simpa using fun hstar : m = .live '*' => hword (hstar ▸ hm)
  rw [readStarred?, dropPrefix?_append, Option.bind_some, List.dropWhile_append_of_pos hkeep,
    List.takeWhile_append_of_pos hkeep]
  simp

theorem readStars_more {word : List Mark} (hword : .live '*' ∉ word) (more : List Mark) :
    readStars beginning (beginning ++ (word ++ .live '*' :: (andMarks ++ more))) =
      (readStars beginning more).map (textOf word :: ·) := by
  rw [readStars, readStarred?_append hword]
  simp only
  rw [dropPrefix?_append]

theorem readStars_last {word : List Mark} (hword : .live '*' ∉ word) (after : List Mark) :
    readStars beginning (beginning ++ (word ++ .live '*' :: .live ')' :: after)) =
      some [textOf word] := by
  have hlast : (Mark.live ')' :: after).dropPrefix? andMarks = none := rfl
  rw [readStars, readStarred?_append hword]
  simp only
  rw [hlast]
  rfl

/-- The induction is on the words: each is followed by ` AND ` and the next one, or is the last. -/
theorem readStars_intercalate {words : List (List Mark)} (hne : words ≠ [])
    (hwords : ∀ word ∈ words, .live '*' ∉ word) (after : List Mark) :
    readStars beginning
        (andMarks.intercalate (words.map fun word => beginning ++ (word ++ [.live '*'])) ++
          .live ')' :: after) =
      some (words.map textOf) := by
  induction words with
  | nil => exact absurd rfl hne
  | cons word rest ih =>
    have hword := hwords word List.mem_cons_self
    cases rest with
    | nil => simpa using readStars_last hword after
    | cons next rest =>
      have hrest := ih (List.cons_ne_nil _ _) fun other hother =>
        hwords other (List.mem_cons_of_mem _ hother)
      rw [List.map_cons] at hrest
      rw [List.map_cons, List.map_cons, List.intercalate_cons_cons, List.append_assoc,
        List.append_assoc, List.append_assoc, List.append_assoc, List.singleton_append]
      rw [readStars_more hword, hrest]
      rfl

end Reading

/-- The words of a term on a field can be read off its text, whatever the field is called. -/
theorem starredWords_anyOf {field : String} {words : List String} (hne : words ≠ []) :
    starredWords field (anyOf [fieldTerm field words]) = some words := by
  have hconjunct : ∀ word, marks (conjunct '*' field.toList word) =
      marks (field.toList ++ [':', '*']) ++ (marks (escapeChars word) ++ [.live '*']) := by
    intro word
    have hname : Complete (field.toList ++ [':', '*']) := by
      simpa using complete_concat (c := '*') (by decide) (field.toList ++ [':'])
    have hchars : conjunct '*' field.toList word =
        (field.toList ++ [':', '*']) ++ (escapeChars word ++ ['*']) := by
      simp [conjunct]
    rw [hchars, hname, complete_escapeChars]
    rfl
  have htext : marks (anyOf [fieldTerm field words]).toList =
      .live '(' :: .live '(' ::
        (andMarks.intercalate ((words.map fun word => marks (escapeChars word.toList)).map
          fun word => marks (field.toList ++ [':', '*']) ++ (word ++ [.live '*'])) ++
          .live ')' :: (marks (orChars ++
            enclosed (half '"' field.toList (words.map String.toList))) ++ [.live ')'])) := by
    have hhalf : Complete (half '*' field.toList (words.map String.toList)) :=
      complete_half (by decide)
    rw [toList_anyOf, List.map_singleton, List.intercalate_singleton,
      marks_enclosed complete_fieldTerm, toList_fieldTerm, complete_enclosed hhalf,
      marks_enclosed hhalf, marks_half (by decide)]
    simp [hconjunct, Function.comp_def]
  have hstar : ∀ word ∈ words.map fun word => marks (escapeChars word.toList),
      .live '*' ∉ word := by
    intro word hword hlive
    obtain ⟨source, _, rfl⟩ := List.mem_map.mp hword
    exact absurd (not_isOperator_of_live_mem hlive) (by decide)
  rw [starredWords, htext]
  simp only
  rw [readStars_intercalate (by simpa using hne) hstar, List.map_map]
  simp [Function.comp_def, textOf_escapeChars]

end SearchFilter.Lucene
