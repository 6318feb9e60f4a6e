import SearchFilter.Proofs.Lucene.Cutting
import SearchFilter.Proofs.Lucene.Term

/-!
# Reading query text back

The alternatives of a query text, and the words of each field, can be read off the text again.
`readTerms` is the reader:

* the text is cut at ` OR ` outside of brackets, and every piece must stand in parentheses;
* a piece that begins with another parenthesis is cut at ` OR ` into two halves in parentheses, and
  each half at ` AND ` into what is asked of the field for one word;
* anything else is a text, which is read without its backslashes.

`readTerms_anyOf` says that it finds the terms that a text was written from.
-/

namespace SearchFilter.Lucene

/-! ## The reader -/

/-- The marks of ` OR `. -/
def orMarks : List Mark := [.live ' ', .live 'O', .live 'R', .live ' ']

/-- The marks of ` AND `. -/
def andMarks : List Mark := [.live ' ', .live 'A', .live 'N', .live 'D', .live ' ']

/-- What stands between an opening and a closing character, if a piece begins and ends with them. -/
def between? (opening closing : Char) : List Mark → Option (List Mark)
  | [] => none
  | m :: ms =>
    if m = .live opening ∧ ms.getLast? = some (.live closing) then some ms.dropLast else none

/-- The text that marks stand for, without backslashes. -/
def textOf (ms : List Mark) : String :=
  String.ofList (ms.map Mark.char)

/-- The field and the word of `field:*word*` or `field:"word"`. -/
def readConjunct (mark : Char) (ms : List Mark) : Option (String × String) :=
  (between? mark mark (ms.dropWhile (· ≠ .live ':')).tail).map fun word =>
    (textOf (ms.takeWhile (· ≠ .live ':')), textOf word)

/-- The fields and words of one half of a term on a field. -/
def readHalf (mark : Char) (ms : List Mark) : Option (List (String × String)) :=
  (between? '(' ')' ms).bind fun inside =>
    (splitOutside andMarks 0 .outside inside).mapM (readConjunct mark)

/-- The term that asks one field for words, if both halves do so with the same words. -/
def readWords (ms : List Mark) : Option SearchTerm :=
  match splitOutside orMarks 0 .outside ms with
  | [stars, quotes] =>
    match readHalf '*' stars, readHalf '"' quotes with
    | some ((field, word) :: rest), some other =>
      if other = (field, word) :: rest ∧ ∀ asked ∈ rest, asked.1 = field then
        some (.words field (word :: rest.map (·.2)))
      else none
    | _, _ => none
  | _ => none

/-- One alternative. -/
def readTerm (piece : List Mark) : Option SearchTerm :=
  (between? '(' ')' piece).bind fun inside =>
    if inside.head? = some (.live '(') then readWords inside else some (.text (textOf inside))

/-- The alternatives of a query text, in order. -/
def readTerms (text : String) : Option (List SearchTerm) :=
  (splitOutside orMarks 0 .outside (marks text.toList)).mapM readTerm

theorem mapM_map_eq_some {α β γ : Type} {f : β → Option γ} {g : α → β} {h : α → γ}
    {xs : List α} (hread : ∀ x ∈ xs, f (g x) = some (h x)) :
    (xs.map g).mapM f = some (xs.map h) := by
  induction xs with
  | nil => rfl
  | cons x xs ih =>
    rw [List.map_cons, List.mapM_cons, hread x List.mem_cons_self,
      ih fun y hy => hread y (List.mem_cons_of_mem _ hy)]
    rfl

/-! ## Marks of the parts of a term -/

theorem marks_orChars : marks orChars = orMarks := by
  decide

theorem between?_enclosed {opening closing : Char} (ms : List Mark) :
    between? opening closing (.live opening :: (ms ++ [.live closing])) = some ms := by
  simp [between?]

/-- An escaped text is read as the text itself. -/
theorem textOf_escapeChars (cs : List Char) :
    textOf (marks (escapeChars cs)) = String.ofList cs := by
  rw [textOf, char_marks_escapeChars]

/-- Names of fields that need no escaping. -/
def PlainName (cs : List Char) : Prop :=
  ∀ c ∈ cs, isOperator c = false ∧ c ≠ ' '

instance (cs : List Char) : Decidable (PlainName cs) :=
  decidable_of_iff (cs.all (fun c => !isOperator c && c != ' ') = true) (by simp [PlainName])

theorem PlainName.not_mem {cs : List Char} (h : PlainName cs) : '\\' ∉ cs := by
  intro hmem
  exact absurd (h _ hmem).1 (by decide)

section Conjuncts

variable {mark : Char} {field : List Char}

theorem complete_conjunct (hmark : mark ≠ '\\') (word : List Char) :
    Complete (conjunct mark field word) :=
  (alike_conjunct hmark field word).left

variable (hfield : PlainName field)

include hfield

theorem marks_conjunct (hmark : mark ≠ '\\') (word : List Char) :
    marks (conjunct mark field word) =
      field.map .live ++ .live ':' :: .live mark ::
        (marks (escapeChars word) ++ [.live mark]) := by
  have hname : '\\' ∉ field ++ [':'] := by simp [hfield.not_mem]
  have hone : marks [mark] = [.live mark] := by rw [marks_cons hmark, marks_nil]
  rw [conjunct, complete_of_not_mem hname, marks_of_not_mem hname, complete_singleton hmark,
    complete_escapeChars, hone]
  simp

theorem readConjunct_conjunct (hmark : mark ≠ '\\') (word : List Char) :
    readConjunct mark (marks (conjunct mark field word)) =
      some (String.ofList field, String.ofList word) := by
  have hcolon : ∀ m ∈ field.map Mark.live, (decide (m ≠ .live ':')) = true := by
    intro m hm
    obtain ⟨c, hc, rfl⟩ := List.mem_map.mp hm
    have hne : c ≠ ':' := by
      rintro rfl
      exact absurd (hfield _ hc).1 (by decide)
    simpa using hne
  have hname : textOf (field.map .live) = String.ofList field := by
    simp [textOf, Function.comp_def, Mark.char]
  rw [marks_conjunct hfield hmark, readConjunct, List.takeWhile_append_of_pos hcolon,
    List.dropWhile_append_of_pos hcolon]
  simp [between?_enclosed, hname, textOf_escapeChars]

/-- What is asked for one word has no blank outside of brackets, if the word has none. -/
theorem solid_conjunct (hmark : mark = '*' ∨ mark = '"') {word : List Char}
    (hword : ' ' ∉ word) :
    Solid .outside (marks (conjunct mark field word)) .outside := by
  have hslash := ne_backslash_of_mark hmark
  have hname : Solid .outside (field.map Mark.live) .outside := by
    refine solid_of_forall_live (fun c hc => ?_) (fun _ hmem => ?_)
    · exact isBracket_of_not_isOperator (hfield c (by simpa using hc)).1
    · exact (hfield ' ' (by simpa using hmem)).2 rfl
  have hescaped : ∀ c, .live c ∈ marks (escapeChars word) → isBracket c = false :=
    fun _ hc => not_isBracket_of_live_mem hc
  have hblank : .live ' ' ∉ marks (escapeChars word) := fun hmem => hword (mem_of_live_mem hmem)
  rw [marks_conjunct hfield hslash]
  refine hname.append (.cons (fun _ => by decide) (after_live_of_not_isBracket rfl _) ?_)
  -- Stars are no brackets, so the word must have no blank; between quotes it could have any.
  rcases hmark with rfl | rfl
  · refine solid_of_forall_live (fun c hc => ?_) (fun _ hmem => ?_)
    · rcases List.mem_cons.mp hc with hstar | hc
      · cases hstar
        rfl
      · rcases List.mem_append.mp hc with hc | hc
        · exact hescaped c hc
        · cases List.mem_singleton.mp hc
          rfl
    · exact hblank (by simpa using hmem)
  · exact Solid.quoted hescaped

end Conjuncts

/-! ## Terms on a field -/

section Halves

variable {mark : Char} {field : List Char} {words : List (List Char)}

theorem complete_half (hmark : mark ≠ '\\') : Complete (half mark field words) :=
  (alike_half hmark field words).left

theorem marks_half (hmark : mark ≠ '\\') :
    marks (half mark field words) =
      andMarks.intercalate (words.map fun word => marks (conjunct mark field word)) := by
  have hand : marks [' ', 'A', 'N', 'D', ' '] = andMarks := by decide
  have hpieces : ∀ piece ∈ words.map (conjunct mark field), Complete piece := by
    intro piece hpiece
    obtain ⟨word, _, rfl⟩ := List.mem_map.mp hpiece
    exact complete_conjunct hmark word
  rw [half, marks_intercalate (complete_of_not_mem (by decide)) hpieces, hand, List.map_map]
  rfl

variable (hfield : PlainName field) (hmark : mark = '*' ∨ mark = '"')
  (hwords : ∀ word ∈ words, ' ' ∉ word)

include hfield hmark hwords

/-- A half has blanks only around its conjunctions, which are inside of parentheses. -/
theorem solid_enclosed_half :
    Solid .outside (marks (enclosed (half mark field words))) .outside := by
  have hslash := ne_backslash_of_mark hmark
  rw [marks_enclosed (complete_half hslash), marks_half hslash]
  refine Solid.enclosed (solid_intercalate ?_ ?_)
  · exact solid_of_forall_live (by simp [andMarks, isBracket]) (by simp [Nesting.outside])
  · intro piece hpiece
    obtain ⟨word, hword, rfl⟩ := List.mem_map.mp hpiece
    exact (solid_conjunct hfield hmark (hwords word hword)).deeper

theorem readHalf_half (hne : words ≠ []) :
    readHalf mark (marks (enclosed (half mark field words))) =
      some (words.map fun word => (String.ofList field, String.ofList word)) := by
  have hslash := ne_backslash_of_mark hmark
  have hsolid : ∀ piece ∈ words.map fun word => marks (conjunct mark field word),
      Solid .outside piece .outside := by
    intro piece hpiece
    obtain ⟨word, hword, rfl⟩ := List.mem_map.mp hpiece
    exact solid_conjunct hfield hmark (hwords word hword)
  rw [marks_enclosed (complete_half hslash), readHalf, between?_enclosed, Option.bind_some,
    marks_half hslash, splitOutside_intercalate (by rfl) (by simpa using hne) hsolid]
  exact mapM_map_eq_some fun word _ => readConjunct_conjunct hfield hslash word

end Halves

section Terms

variable {field : String} {words : List String}

theorem complete_fieldTerm : Complete (fieldTerm field words).toList :=
  (alike_fieldTerm field words).left

theorem marks_fieldTerm :
    marks (fieldTerm field words).toList =
      orMarks.intercalate
        [marks (enclosed (half '*' field.toList (words.map String.toList))),
          marks (enclosed (half '"' field.toList (words.map String.toList)))] := by
  have hor : Complete orChars := complete_of_not_mem (by decide)
  rw [toList_fieldTerm, complete_enclosed (complete_half (by decide)), hor, marks_orChars]
  simp

variable (hfield : PlainName field.toList) (hwords : ∀ word ∈ words, ' ' ∉ word.toList)

include hfield hwords

theorem solid_halves (mark : Char) (hmark : mark = '*' ∨ mark = '"') :
    Solid .outside (marks (enclosed (half mark field.toList (words.map String.toList))))
      .outside := by
  refine solid_enclosed_half hfield hmark fun chars hchars => ?_
  obtain ⟨word, hword, rfl⟩ := List.mem_map.mp hchars
  exact hwords word hword

theorem readWords_fieldTerm (hne : words ≠ []) :
    readWords (marks (fieldTerm field words).toList) = some (.words field words) := by
  have hhalf : ∀ mark : Char, mark = '*' ∨ mark = '"' →
      readHalf mark (marks (enclosed (half mark field.toList (words.map String.toList)))) =
        some (words.map fun word => (field, word)) := by
    intro mark hmark
    rw [readHalf_half hfield hmark (by simpa using hwords) (by simpa using hne)]
    simp
  have hsolid := solid_halves hfield hwords
  rw [readWords, marks_fieldTerm, splitOutside_intercalate (by rfl) (by simp)
    (by simpa using ⟨hsolid '*' (.inl rfl), hsolid '"' (.inr rfl)⟩)]
  simp only [hhalf '*' (.inl rfl), hhalf '"' (.inr rfl)]
  cases words with
  | nil => exact absurd rfl hne
  | cons word rest => simp [Function.comp_def]

end Terms

/-! ## All terms -/

/-- Terms that can be read back: a field must need no escaping, and there must be words, which have
no blank in them.  Nothing is asked of a text. -/
def Readable : SearchTerm → Prop
  | .text _ => True
  | .words field parts =>
    PlainName field.toList ∧ parts ≠ [] ∧ ∀ part ∈ parts, ' ' ∉ part.toList

theorem toList_write_text (s : String) :
    (SearchTerm.write true (.text s)).toList = escapeChars s.toList := by
  simp [SearchTerm.write, escape]

theorem complete_write (term : SearchTerm) : Complete (term.write true).toList := by
  cases term with
  | text s => exact toList_write_text s ▸ complete_escapeChars s.toList
  | words field parts => exact complete_fieldTerm

theorem solid_write {term : SearchTerm} (hterm : Readable term) :
    Solid .outside (marks (enclosed (term.write true).toList)) .outside := by
  rw [marks_enclosed (complete_write term)]
  refine Solid.enclosed ?_
  cases term with
  | text s =>
    rw [toList_write_text]
    exact solid_of_forall_live (fun _ hc => not_isBracket_of_live_mem hc)
      (by simp [Nesting.outside])
  | words field parts =>
    obtain ⟨hfield, _, hparts⟩ := hterm
    rw [SearchTerm.write, marks_fieldTerm]
    refine solid_intercalate ?_ ?_
    · exact solid_of_forall_live (by simp [orMarks, isBracket]) (by simp [Nesting.outside])
    · have hsolid := solid_halves hfield hparts
      simpa using ⟨(hsolid '*' (.inl rfl)).deeper, (hsolid '"' (.inr rfl)).deeper⟩

theorem readTerm_write {term : SearchTerm} (hterm : Readable term) :
    readTerm (marks (enclosed (term.write true).toList)) = some term := by
  rw [marks_enclosed (complete_write term), readTerm, between?_enclosed, Option.bind_some]
  cases term with
  | text s =>
    -- an escaped text does not begin with a live parenthesis
    have hhead : (marks (escapeChars s.toList)).head? ≠ some (.live '(') := by
      intro hhead
      exact absurd (not_isOperator_of_live_mem (List.mem_of_head? hhead)) (by decide)
    rw [toList_write_text, if_neg hhead, textOf_escapeChars, String.ofList_toList]
  | words field parts =>
    obtain ⟨hfield, hne, hparts⟩ := hterm
    have hhead : (marks (fieldTerm field parts).toList).head? = some (.live '(') := by
      rw [marks_fieldTerm, marks_enclosed (complete_half (by decide))]
      rfl
    rw [SearchTerm.write, if_pos hhead, readWords_fieldTerm hfield hparts hne]

/-- The terms that a query text was written from can be read off the text. -/
theorem readTerms_anyOf {terms : List SearchTerm} (hne : terms ≠ [])
    (hterms : ∀ term ∈ terms, Readable term) :
    readTerms (anyOf (terms.map (SearchTerm.write true))) = some terms := by
  have hpieces : ∀ piece ∈ (terms.map (SearchTerm.write true)).map
      fun term => enclosed term.toList, Complete piece := by
    simp only [List.map_map, List.mem_map]
    rintro piece ⟨term, _, rfl⟩
    exact complete_enclosed (complete_write term)
  have hsolid : ∀ piece ∈ terms.map fun term => marks (enclosed (term.write true).toList),
      Solid .outside piece .outside := by
    intro piece hpiece
    obtain ⟨term, hterm, rfl⟩ := List.mem_map.mp hpiece
    exact solid_write (hterms term hterm)
  have hmarks : marks (anyOf (terms.map (SearchTerm.write true))).toList =
      orMarks.intercalate (terms.map fun term => marks (enclosed (term.write true).toList)) := by
    rw [toList_anyOf, marks_intercalate (complete_of_not_mem (by decide)) hpieces, marks_orChars,
      List.map_map, List.map_map]
    rfl
  have hread : ∀ term ∈ terms,
      readTerm (marks (enclosed (term.write true).toList)) = some (id term) :=
    fun term hterm => readTerm_write (hterms term hterm)
  rw [readTerms, hmarks, splitOutside_intercalate (by rfl) (by simpa using hne) hsolid,
    mapM_map_eq_some hread, List.map_id]

end SearchFilter.Lucene
