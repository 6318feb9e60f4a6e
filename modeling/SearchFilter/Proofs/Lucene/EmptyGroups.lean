import SearchFilter.Proofs.Lucene.Bracketing
import SearchFilter.Proofs.Lucene.ReadBack
import SearchFilter.Proofs.Text.Blank

/-!
# Empty groups of query text

Parentheses with nothing between them, or with blanks only, make a query text malformed.  A reader
that looks for such a group has to remember one thing: whether a group has been opened in which
nothing but blanks has come so far.

* `pendingAfterAll_eq_none_iff` says that this reader stops exactly where there is an empty group.
* `pendingAfterAll_escapeChars`, `pendingAfterAll_enclosed` and `pendingAfterAll_intercalate` follow
  it through the pieces of a text, and `pendingAfterAll_fieldTerm` through a term on a field.
* `hasEmptyGroup_anyOf` is the result: a term makes an empty group if it has no words, or if the
  name of its field brings one with it.  A name without parentheses does not
  (`not_hasEmptyGroup_name`).
-/

namespace SearchFilter

/-- The words that a term searches for. -/
def SearchTerm.sought : SearchTerm → List String
  | text s => Text.words s
  | .words _ parts => parts

namespace Lucene

open Text (isBlank)

/-! ## Groups -/

/-- Blanks and a live closing parenthesis come first. -/
def ClosesEmpty (ms : List Mark) : Prop :=
  ∃ blanks : List Char, (∀ c ∈ blanks, isBlank c = true) ∧
    blanks.map .live ++ [.live ')'] <+: ms

/-- Somewhere there are a live opening parenthesis, blanks, and a live closing parenthesis. -/
def EmptyGroupIn (ms : List Mark) : Prop :=
  ∃ blanks : List Char, (∀ c ∈ blanks, isBlank c = true) ∧
    .live '(' :: (blanks.map .live ++ [.live ')']) <:+: ms

/-- A query text has a group with nothing but blanks in it. -/
def HasEmptyGroup (text : String) : Prop :=
  EmptyGroupIn (marks text.toList)

theorem closesEmpty_cons {m : Mark} {ms : List Mark} :
    ClosesEmpty (m :: ms) ↔
      m = .live ')' ∨ ∃ c, m = .live c ∧ isBlank c = true ∧ ClosesEmpty ms := by
  constructor
  · rintro ⟨blanks, hblanks, hprefix⟩
    cases blanks with
    | nil => exact .inl (List.cons_prefix_cons.mp hprefix).1.symm
    | cons c blanks =>
      obtain ⟨rfl, hrest⟩ := List.cons_prefix_cons.mp hprefix
      exact .inr ⟨c, rfl, hblanks c List.mem_cons_self, blanks,
        fun d hd => hblanks d (List.mem_cons_of_mem _ hd), hrest⟩
  · rintro (rfl | ⟨c, rfl, hc, blanks, hblanks, hprefix⟩)
    · exact ⟨[], by simp, List.cons_prefix_cons.mpr ⟨rfl, List.nil_prefix⟩⟩
    · exact ⟨c :: blanks, List.forall_mem_cons.mpr ⟨hc, hblanks⟩,
        List.cons_prefix_cons.mpr ⟨rfl, hprefix⟩⟩

theorem emptyGroupIn_cons {m : Mark} {ms : List Mark} :
    EmptyGroupIn (m :: ms) ↔ (m = .live '(' ∧ ClosesEmpty ms) ∨ EmptyGroupIn ms := by
  simp only [EmptyGroupIn, ClosesEmpty, List.infix_cons_iff, List.cons_prefix_cons, and_or_left,
    exists_or]
  refine or_congr_left ⟨?_, ?_⟩
  · rintro ⟨blanks, hblanks, rfl, hprefix⟩
    exact ⟨rfl, blanks, hblanks, hprefix⟩
  · rintro ⟨rfl, blanks, hblanks, hprefix⟩
    exact ⟨blanks, hblanks, rfl, hprefix⟩

/-! ## The reader -/

/-- Whether a group is pending, that is opened with nothing but blanks in it so far, after one more
character.  There is no answer after an empty group. -/
def pendingAfter (pending : Bool) : Mark → Option Bool
  | .literal _ => some false
  | .live c =>
    if c = '(' then some true
    else if c = ')' then (if pending then none else some false)
    else some (pending && isBlank c)

/-- Whether a group is pending after several characters. -/
def pendingAfterAll (pending : Bool) (ms : List Mark) : Option Bool :=
  ms.foldlM pendingAfter pending

@[simp]
theorem pendingAfterAll_nil (pending : Bool) : pendingAfterAll pending [] = some pending := rfl

@[simp]
theorem pendingAfterAll_cons (pending : Bool) (m : Mark) (ms : List Mark) :
    pendingAfterAll pending (m :: ms) =
      (pendingAfter pending m).bind fun next => pendingAfterAll next ms :=
  List.foldlM_cons

theorem pendingAfterAll_append (pending : Bool) (xs ys : List Mark) :
    pendingAfterAll pending (xs ++ ys) =
      (pendingAfterAll pending xs).bind fun next => pendingAfterAll next ys :=
  List.foldlM_append

/-- The reader stops exactly where a pending group is closed or an empty group occurs. -/
theorem pendingAfterAll_eq_none_iff {pending : Bool} {ms : List Mark} :
    pendingAfterAll pending ms = none ↔
      (pending = true ∧ ClosesEmpty ms) ∨ EmptyGroupIn ms := by
  induction ms generalizing pending with
  | nil => simp [ClosesEmpty, EmptyGroupIn]
  | cons m ms ih =>
    rw [pendingAfterAll_cons, closesEmpty_cons, emptyGroupIn_cons]
    cases m with
    | literal c => simp [pendingAfter, ih]
    | live c =>
      by_cases hopen : c = '('
      · have hblank : isBlank '(' = false := by decide
        simp [pendingAfter, hopen, ih, hblank]
      · by_cases hclose : c = ')'
        · cases pending <;> simp [pendingAfter, hclose, ih]
        · simp [pendingAfter, hopen, hclose, ih, and_assoc]

theorem hasEmptyGroup_iff {text : String} :
    HasEmptyGroup text ↔ pendingAfterAll false (marks text.toList) = none := by
  rw [pendingAfterAll_eq_none_iff, HasEmptyGroup]
  simp

instance (text : String) : Decidable (HasEmptyGroup text) :=
  decidable_of_iff _ hasEmptyGroup_iff.symm

/-- An empty group is met whether or not another one is pending before it. -/
theorem pendingAfterAll_true_of_false {ms : List Mark} (h : pendingAfterAll false ms = none) :
    pendingAfterAll true ms = none := by
  rw [pendingAfterAll_eq_none_iff] at h ⊢
  exact .inr (by simpa using h)

/-! ## Pieces of a text -/

theorem not_isBlank_of_isOperator {c : Char} (hc : isOperator c = true) : isBlank c = false := by
  have hoperators : (['+', '-', '!', '(', ')', '\x7b', '\x7d', '[', ']', '^', '"', '~', '*', '?',
      ':', '\\', '/'].all fun d => !isBlank d) = true := by
    decide
  simpa using List.all_eq_true.mp hoperators c (List.contains_iff_mem.mp hc)

/-- In escaped text no parenthesis is live, so a pending group stays pending if all is blank. -/
theorem pendingAfterAll_escapeChars (pending : Bool) (cs : List Char) :
    pendingAfterAll pending (marks (escapeChars cs)) = some (pending && cs.all isBlank) := by
  fun_induction escapeChars cs generalizing pending with
  | case1 => simp
  | case2 cs ih | case3 cs ih =>
    rw [marks, marks_cons (by decide)]
    simp [pendingAfter, ih, isBlank]
  | case4 c cs _ _ hop ih =>
    rw [marks]
    simp [pendingAfter, ih, not_isBlank_of_isOperator hop]
  | case5 c cs _ _ hop ih =>
    have hc : isOperator c = false := by simpa using hop
    have hopen : c ≠ '(' := by
      rintro rfl
      exact absurd hc (by decide)
    have hclose : c ≠ ')' := by
      rintro rfl
      exact absurd hc (by decide)
    rw [marks_cons (ne_backslash_of_not_isOperator hc)]
    simp [pendingAfter, hopen, hclose, ih, Bool.and_assoc]

/-- A text in parentheses is read without an empty group exactly if it has none itself and more than
blanks comes after its last opening parenthesis, the one in front included. -/
theorem pendingAfterAll_enclosed {cs : List Char} (hcs : Complete cs) (pending : Bool) :
    pendingAfterAll pending (marks (enclosed cs)) =
      if pendingAfterAll true (marks cs) = some false then some false else none := by
  have hopen : pendingAfter pending (.live '(') = some true := rfl
  rw [marks_enclosed hcs, pendingAfterAll_cons, hopen, Option.bind_some, pendingAfterAll_append]
  cases pendingAfterAll true (marks cs) with
  | none => rfl
  | some next => cases next <;> rfl

/-- The text is complete, and no group is pending at its end. -/
structure Settled (cs : List Char) : Prop where
  complete : Complete cs
  not_pending : ∀ pending, pendingAfterAll pending (marks cs) ≠ some true

theorem settled_enclosed {cs : List Char} (hcs : Complete cs) : Settled (enclosed cs) := by
  refine ⟨complete_enclosed hcs, fun pending => ?_⟩
  rw [pendingAfterAll_enclosed hcs]
  split <;> simp

section Joined

variable {separator : List Char} (hcomplete : Complete separator)
  (hseparator : ∀ pending, pendingAfterAll pending (marks separator) = some false)

include hcomplete hseparator

/-- No group is pending where a separator has been read, so each of the joined pieces but the first
is read from there. -/
theorem pendingAfterAll_intercalate {piece : List Char} {rest : List (List Char)}
    (hpieces : ∀ other ∈ piece :: rest, Settled other) (pending : Bool) :
    pendingAfterAll pending (marks (separator.intercalate (piece :: rest))) =
      if pendingAfterAll pending (marks piece) = none ∨
          ∃ other ∈ rest, pendingAfterAll false (marks other) = none then none
      else some false := by
  induction rest generalizing piece pending with
  | nil =>
    have hsettled := (hpieces piece List.mem_cons_self).not_pending pending
    rw [List.intercalate_singleton]
    cases hread : pendingAfterAll pending (marks piece) with
    | none => simp
    | some next => simpa [hread] using hsettled
  | cons next rest ih =>
    have hpiece := (hpieces piece List.mem_cons_self).complete
    have hrest := ih (fun other hother => hpieces other (List.mem_cons_of_mem _ hother)) false
    rw [List.intercalate_cons_cons, List.append_assoc, hpiece, hcomplete, pendingAfterAll_append]
    cases hread : pendingAfterAll pending (marks piece) with
    | none => simp
    | some still => simp [pendingAfterAll_append, hseparator, hrest]

end Joined

theorem pendingAfterAll_orChars (pending : Bool) :
    pendingAfterAll pending (marks orChars) = some false := by
  cases pending <;> rfl

theorem pendingAfterAll_and (pending : Bool) :
    pendingAfterAll pending (marks [' ', 'A', 'N', 'D', ' ']) = some false := by
  cases pending <;> rfl

/-! ## Terms -/

section Field

variable {mark : Char} (hmark : mark = '*' ∨ mark = '"') (field : List Char)

include hmark

/-- What is asked of a field for one word can have an empty group in the name of the field only. -/
theorem pendingAfterAll_conjunct (word : List Char) (pending : Bool) :
    pendingAfterAll pending (marks (conjunct mark field word)) =
      (pendingAfterAll pending (marks (field ++ [':']))).map fun _ => false := by
  have hstands : ∀ pending, pendingAfterAll pending (marks [mark]) = some false := by
    intro pending
    rcases hmark with rfl | rfl <;> cases pending <;> rfl
  have hname : Complete (field ++ [':']) := complete_concat (by decide) field
  have hone : Complete [mark] := complete_singleton (ne_backslash_of_mark hmark)
  rw [conjunct, hname, hone, complete_escapeChars, pendingAfterAll_append]
  cases pendingAfterAll pending (marks (field ++ [':'])) with
  | none => rfl
  | some still => simp [pendingAfterAll_append, hstands, pendingAfterAll_escapeChars]

theorem settled_conjunct (word : List Char) : Settled (conjunct mark field word) := by
  refine ⟨(alike_conjunct (ne_backslash_of_mark hmark) field word).left, fun pending => ?_⟩
  rw [pendingAfterAll_conjunct hmark]
  simp

/-- With words, the half of a term has an empty group only if the name of the field, right after the
parenthesis, brings one with it. -/
theorem pendingAfterAll_half {words : List (List Char)} (hne : words ≠ []) :
    pendingAfterAll true (marks (half mark field words)) =
      (pendingAfterAll true (marks (field ++ [':']))).map fun _ => false := by
  obtain ⟨word, rest, rfl⟩ := List.exists_cons_of_ne_nil hne
  have hpieces : ∀ piece ∈ conjunct mark field word :: rest.map (conjunct mark field),
      Settled piece := by
    rw [← List.map_cons, List.forall_mem_map]
    exact fun other _ => settled_conjunct hmark field other
  rw [half, List.map_cons, pendingAfterAll_intercalate (complete_of_not_mem (by decide))
    pendingAfterAll_and hpieces, pendingAfterAll_conjunct hmark]
  cases hname : pendingAfterAll true (marks (field ++ [':'])) with
  | none => simp
  | some still =>
    have hrest : ¬ ∃ other ∈ rest.map (conjunct mark field),
        pendingAfterAll false (marks other) = none := by
      rintro ⟨other, hother, hnone⟩
      obtain ⟨word', _, rfl⟩ := List.mem_map.mp hother
      rw [pendingAfterAll_conjunct hmark, Option.map_eq_none_iff] at hnone
      rw [pendingAfterAll_true_of_false hnone] at hname
      cases hname
    rw [if_neg (not_or.mpr ⟨by simp, hrest⟩)]
    rfl

end Field

/-- The name of a field has an empty group in it, or makes one with the parenthesis in front. -/
theorem hasEmptyGroup_name_iff (field : String) :
    HasEmptyGroup ("(" ++ field ++ ":") ↔
      pendingAfterAll true (marks (field.toList ++ [':'])) = none := by
  have hchars : ("(" ++ field ++ ":").toList = '(' :: (field.toList ++ [':']) := by simp
  rw [hasEmptyGroup_iff, hchars, marks_cons (by decide), pendingAfterAll_cons]
  rfl

/-- A name without a closing parenthesis brings no empty group with it. -/
theorem not_hasEmptyGroup_name {field : String} (h : ')' ∉ field.toList) :
    ¬ HasEmptyGroup ("(" ++ field ++ ":") := by
  rintro ⟨blanks, -, hgroup⟩
  have hlive : .live ')' ∈ marks ("(" ++ field ++ ":").toList := hgroup.subset (by simp)
  have hmem := mem_of_live_mem_marks hlive
  simp [h] at hmem

/-- A term on a field has an empty group in it if it has no words or the name of the field brings
one with it. -/
theorem pendingAfterAll_fieldTerm (field : String) (words : List String) (pending : Bool) :
    pendingAfterAll pending (marks (fieldTerm field words).toList) =
      if words = [] ∨ HasEmptyGroup ("(" ++ field ++ ":") then none else some false := by
  have hhalf : ∀ mark : Char, mark = '*' ∨ mark = '"' → ∀ pending,
      pendingAfterAll pending
          (marks (enclosed (half mark field.toList (words.map String.toList)))) =
        if words = [] ∨ HasEmptyGroup ("(" ++ field ++ ":") then none else some false := by
    intro mark hmark pending
    have hname := hasEmptyGroup_name_iff field
    rw [pendingAfterAll_enclosed (complete_half (ne_backslash_of_mark hmark))]
    by_cases hnil : words = []
    · simp [hnil, half]
    · rw [pendingAfterAll_half hmark _ (by simpa using hnil)]
      cases hread : pendingAfterAll true (marks (field.toList ++ [':'])) <;>
        simp [hnil, hname, hread]
  have hor : Complete orChars := complete_of_not_mem (by decide)
  rw [toList_fieldTerm, complete_enclosed (complete_half (by decide)), hor,
    pendingAfterAll_append, hhalf '*' (.inl rfl)]
  split
  · rfl
  · next hneither =>
    rw [Option.bind_some, pendingAfterAll_append, pendingAfterAll_orChars, Option.bind_some,
      hhalf '"' (.inr rfl), if_neg hneither]

/-- A term makes an empty group: it has no words, or the name of its field brings one with it. -/
def MakesEmptyGroup (term : SearchTerm) : Prop :=
  term.sought = [] ∨ ∃ field ∈ term.field?, HasEmptyGroup ("(" ++ field ++ ":")

/-- In its parentheses a term is read without an empty group unless it makes one. -/
theorem pendingAfterAll_enclosed_write (term : SearchTerm) (pending : Bool) :
    pendingAfterAll pending (marks (enclosed (term.write true).toList)) = none ↔
      MakesEmptyGroup term := by
  rw [pendingAfterAll_enclosed (complete_write term)]
  cases term with
  | text s =>
    have hwords : Text.words s = [] ↔ s.toList.all isBlank = true := by
      rw [Text.words_eq_nil_iff, List.all_eq_true]
    rw [toList_write_text, pendingAfterAll_escapeChars]
    simp [MakesEmptyGroup, SearchTerm.sought, SearchTerm.field?, hwords]
  | words field parts =>
    rw [SearchTerm.write, pendingAfterAll_fieldTerm]
    simp [MakesEmptyGroup, SearchTerm.sought, SearchTerm.field?, or_iff_not_imp_left]

/-- Terms make a text with an empty group if one of them makes such a group, and only then. -/
theorem hasEmptyGroup_anyOf {terms : List SearchTerm} :
    HasEmptyGroup (anyOf (terms.map (SearchTerm.write true))) ↔
      ∃ term ∈ terms, MakesEmptyGroup term := by
  have hpieces : ∀ piece ∈ terms.map fun term => enclosed (term.write true).toList,
      Settled piece := by
    rw [List.forall_mem_map]
    exact fun term _ => settled_enclosed (complete_write term)
  rw [hasEmptyGroup_iff, toList_anyOf, List.map_map]
  cases terms with
  | nil => simp
  | cons term rest =>
    have hor : Complete orChars := complete_of_not_mem (by decide)
    show pendingAfterAll false (marks (orChars.intercalate (enclosed (term.write true).toList ::
      rest.map fun term => enclosed (term.write true).toList))) = none ↔ _
    rw [pendingAfterAll_intercalate hor pendingAfterAll_orChars hpieces, List.exists_mem_cons_iff]
    simp [pendingAfterAll_enclosed_write, or_iff_not_imp_left]

end Lucene

end SearchFilter
