import Mathlib.Data.List.Forall2
import SearchFilter.Proofs.Lucene.Marks

/-!
# Brackets of query text

A reader of query text keeps track of how deep it is in parentheses and whether it is between
double quotes, where parentheses do not count.  `Nesting.after` is one step of this reader, and a
text is `Bracketed` when the reader ends where it began and has met no parenthesis too many.

* Escaped text moves no reader (`neutral_escapeChars`), whether it is inside quotes or not.
* `Alike` texts move every reader in the same way; it is kept by joining texts, so escaped text can
  be left out anywhere (`alike_fieldTerm`).
-/

namespace SearchFilter.Lucene

/-! ## The reader -/

/-- Where a reader of query text is. -/
structure Nesting where
  depth : Nat
  quoted : Bool
deriving DecidableEq, Repr

namespace Nesting

/-- The start of a text. -/
def outside : Nesting := ⟨0, false⟩

/-- The reader after one character; there is none after a closing parenthesis that closes nothing.
-/
def after (nesting : Nesting) : Mark → Option Nesting
  | .literal _ => some nesting
  | .live c =>
    if c = '"' then some { nesting with quoted := !nesting.quoted }
    else if nesting.quoted then some nesting
    else if c = '(' then some { nesting with depth := nesting.depth + 1 }
    else if c = ')' then
      if nesting.depth = 0 then none else some { nesting with depth := nesting.depth - 1 }
    else some nesting

/-- The reader after several characters. -/
def afterAll (nesting : Nesting) (ms : List Mark) : Option Nesting :=
  ms.foldlM after nesting

@[simp]
theorem afterAll_nil (nesting : Nesting) : nesting.afterAll [] = some nesting := rfl

@[simp]
theorem afterAll_cons (nesting : Nesting) (m : Mark) (ms : List Mark) :
    nesting.afterAll (m :: ms) = (nesting.after m).bind fun next => next.afterAll ms :=
  List.foldlM_cons

theorem afterAll_append (nesting : Nesting) (xs ys : List Mark) :
    nesting.afterAll (xs ++ ys) = (nesting.afterAll xs).bind fun next => next.afterAll ys :=
  List.foldlM_append

end Nesting

/-- A reader that begins outside of all brackets ends there. -/
def Bracketed (text : String) : Prop :=
  Nesting.outside.afterAll (marks text.toList) = some .outside

instance (text : String) : Decidable (Bracketed text) :=
  inferInstanceAs (Decidable (_ = _))

/-! ## Text that moves no reader -/

/-- Wherever a reader is, it is there again after these characters. -/
def Neutral (ms : List Mark) : Prop :=
  ∀ nesting : Nesting, nesting.afterAll ms = some nesting

/-- The parentheses and the double quote. -/
def isBracket (c : Char) : Bool :=
  c == '"' || c == '(' || c == ')'

theorem after_live_of_not_isBracket {c : Char} (hc : isBracket c = false) (nesting : Nesting) :
    nesting.after (.live c) = some nesting := by
  simp only [isBracket, Bool.or_eq_false_iff, beq_eq_false_iff_ne, ne_eq] at hc
  obtain ⟨⟨hquote, hopen⟩, hclose⟩ := hc
  simp [Nesting.after, hquote, hopen, hclose]

/-- Only live brackets move a reader. -/
theorem neutral_of_forall_live {ms : List Mark} (h : ∀ c, .live c ∈ ms → isBracket c = false) :
    Neutral ms := by
  intro nesting
  induction ms with
  | nil => rfl
  | cons m ms ih =>
    have hfirst : nesting.after m = some nesting := by
      cases m with
      | literal c => rfl
      | live c => exact after_live_of_not_isBracket (h c List.mem_cons_self) nesting
    rw [Nesting.afterAll_cons, hfirst]
    exact ih fun c hc => h c (List.mem_cons_of_mem _ hc)

theorem isBracket_of_not_isOperator {c : Char} (hc : isOperator c = false) :
    isBracket c = false := by
  cases hbracket : isBracket c with
  | false => rfl
  | true =>
    simp only [isBracket, Bool.or_eq_true, beq_iff_eq] at hbracket
    rcases hbracket with (rfl | rfl) | rfl <;> exact absurd hc (by decide)

theorem not_isBracket_of_live_mem {cs : List Char} {c : Char}
    (h : .live c ∈ marks (escapeChars cs)) : isBracket c = false :=
  isBracket_of_not_isOperator (not_isOperator_of_live_mem h)

/-- Escaped text moves no reader. -/
theorem neutral_escapeChars (cs : List Char) : Neutral (marks (escapeChars cs)) :=
  neutral_of_forall_live fun _ hc => not_isBracket_of_live_mem hc

/-! ## Texts that move readers alike -/

/-- Two texts, both complete, that move every reader in the same way. -/
structure Alike (xs ys : List Char) : Prop where
  left : Complete xs
  right : Complete ys
  same : ∀ nesting : Nesting, nesting.afterAll (marks xs) = nesting.afterAll (marks ys)

theorem alike_refl {cs : List Char} (hcs : Complete cs) : Alike cs cs :=
  ⟨hcs, hcs, fun _ => rfl⟩

/-- Escaped text is like no text at all. -/
theorem alike_escapeChars (cs : List Char) : Alike (escapeChars cs) [] :=
  ⟨complete_escapeChars cs, complete_nil, neutral_escapeChars cs⟩

theorem Alike.append {xs xs' ys ys' : List Char} (hx : Alike xs xs') (hy : Alike ys ys') :
    Alike (xs ++ ys) (xs' ++ ys') := by
  refine ⟨hx.left.append hy.left, hx.right.append hy.right, fun nesting => ?_⟩
  rw [hx.left, hx.right, Nesting.afterAll_append, Nesting.afterAll_append, hx.same]
  congr 1
  funext next
  exact hy.same next

theorem alike_intercalate {separator : List Char} (hseparator : Complete separator)
    {pieces pieces' : List (List Char)} (h : List.Forall₂ Alike pieces pieces') :
    Alike (separator.intercalate pieces) (separator.intercalate pieces') := by
  induction h with
  | nil => exact alike_refl complete_nil
  | @cons piece piece' rest rest' hfirst hrest ih =>
    cases hrest with
    | nil => simpa using hfirst
    | cons _ _ =>
      rw [List.intercalate_cons_cons, List.intercalate_cons_cons]
      exact (hfirst.append (alike_refl hseparator)).append ih

/-! ## Terms -/

theorem alike_conjunct {mark : Char} (hmark : mark ≠ '\\') (field word : List Char) :
    Alike (conjunct mark field word) (conjunct mark field []) := by
  have hfield : Complete (field ++ [':']) := complete_concat (by decide) field
  have hone : Complete [mark] := complete_singleton hmark
  exact (alike_refl hfield).append
    ((alike_refl hone).append ((alike_escapeChars word).append (alike_refl hone)))

theorem alike_half {mark : Char} (hmark : mark ≠ '\\') (field : List Char)
    (words : List (List Char)) :
    Alike (half mark field words) (half mark field (words.map fun _ => [])) := by
  refine alike_intercalate (complete_of_not_mem (by decide)) ?_
  rw [List.map_map, List.forall₂_map_left_iff, List.forall₂_map_right_iff, List.forall₂_same]
  exact fun word _ => alike_conjunct hmark field word

theorem Alike.enclosed {xs ys : List Char} (h : Alike xs ys) :
    Alike (enclosed xs) (Lucene.enclosed ys) :=
  (alike_refl (complete_singleton (by decide))).append
    (h.append (alike_refl (complete_singleton (by decide))))

/-- A term on a field is like the same term with all of its words empty. -/
theorem alike_fieldTerm (field : String) (words : List String) :
    Alike (fieldTerm field words).toList (fieldTerm field (words.map fun _ => "")).toList := by
  have hempty : (words.map fun _ => "").map String.toList =
      (words.map String.toList).map fun _ => [] := by
    rw [List.map_map, List.map_map]
    rfl
  rw [toList_fieldTerm, toList_fieldTerm, hempty]
  exact (alike_half (by decide) _ _).enclosed.append
    ((alike_refl (complete_of_not_mem (by decide))).append
      (alike_half (by decide) _ _).enclosed)

/-- Alternatives that move readers alike make texts that do. -/
theorem alike_anyOf {terms terms' : List String}
    (h : List.Forall₂ (fun term term' => Alike term.toList term'.toList) terms terms') :
    Alike (anyOf terms).toList (anyOf terms').toList := by
  rw [toList_anyOf, toList_anyOf]
  refine alike_intercalate (complete_of_not_mem (by decide)) ?_
  rw [List.forall₂_map_left_iff, List.forall₂_map_right_iff]
  exact h.imp fun _ _ halike => halike.enclosed

theorem Alike.bracketed_iff {text text' : String} (h : Alike text.toList text'.toList) :
    Bracketed text ↔ Bracketed text' := by
  rw [Bracketed, Bracketed, h.same]

/-! ## Text between brackets that moves no reader -/

/-- The text is complete and moves no reader. -/
abbrev Inert (cs : List Char) : Prop := Alike cs []

theorem Inert.append {xs ys : List Char} (hx : Inert xs) (hy : Inert ys) : Inert (xs ++ ys) :=
  Alike.append hx hy

/-- Text without backslashes and brackets moves no reader. -/
theorem inert_of_any_eq_false {cs : List Char} (hslash : '\\' ∉ cs)
    (hbracket : cs.any isBracket = false) : Inert cs := by
  refine ⟨complete_of_not_mem hslash, complete_nil, neutral_of_forall_live fun c hc => ?_⟩
  rw [marks_of_not_mem hslash] at hc
  rw [List.any_eq_false] at hbracket
  simpa using hbracket c (by simpa using hc)

theorem inert_intercalate {separator : List Char} (hseparator : Inert separator)
    {pieces : List (List Char)} (h : ∀ piece ∈ pieces, Inert piece) :
    Inert (separator.intercalate pieces) := by
  induction pieces with
  | nil => exact alike_refl complete_nil
  | cons piece rest ih =>
    have hfirst : Inert piece := h piece List.mem_cons_self
    have hrest : Inert (separator.intercalate rest) :=
      ih fun p hp => h p (List.mem_cons_of_mem _ hp)
    cases rest with
    | nil => simpa using hfirst
    | cons next rest =>
      rw [List.intercalate_cons_cons]
      exact (hfirst.append hseparator).append hrest

/-- Parentheses around text that moves no reader move none either: outside of quotes the second
undoes the first, and inside neither counts. -/
theorem Inert.enclosed {cs : List Char} (h : Inert cs) : Inert (enclosed cs) := by
  refine ⟨complete_enclosed h.left, complete_nil, fun nesting => ?_⟩
  have hmarks := marks_enclosed h.left
  obtain ⟨depth, quoted⟩ := nesting
  cases quoted with
  | true => simp [hmarks, Nesting.after, Nesting.afterAll_append, h.same]
  | false => simp [hmarks, Nesting.after, Nesting.afterAll_append, h.same]

/-- A word between two quotes moves no reader: the second quote undoes the first. -/
theorem inert_quotes : Inert ['"', '"'] := by
  refine ⟨complete_of_not_mem (by decide), complete_nil, fun nesting => ?_⟩
  simp [marks, Nesting.after]

theorem ne_backslash_of_mark {mark : Char} (hmark : mark = '*' ∨ mark = '"') : mark ≠ '\\' := by
  rcases hmark with rfl | rfl <;> decide

theorem inert_conjunct {mark : Char} (hmark : mark = '*' ∨ mark = '"') {field : List Char}
    (hfield : Neutral (marks (field ++ [':']))) (word : List Char) :
    Inert (conjunct mark field word) := by
  have hname : Inert (field ++ [':']) :=
    ⟨complete_concat (by decide) field, complete_nil, hfield⟩
  have hempty : Inert ([mark] ++ [mark]) := by
    rcases hmark with rfl | rfl
    · exact inert_of_any_eq_false (by decide) (by decide)
    · exact inert_quotes
  have hhollow := alike_conjunct (ne_backslash_of_mark hmark) field word
  refine ⟨hhollow.left, complete_nil, fun nesting => ?_⟩
  rw [hhollow.same]
  exact (hname.append hempty).same nesting

/-- A term on a field moves no reader if the name of the field, with its colon, does not. -/
theorem inert_fieldTerm {field : String} (hfield : Neutral (marks (field.toList ++ [':'])))
    (words : List String) : Inert (fieldTerm field words).toList := by
  have hhalf : ∀ mark : Char, mark = '*' ∨ mark = '"' →
      Inert (half mark field.toList (words.map String.toList)) := by
    intro mark hmark
    refine inert_intercalate (inert_of_any_eq_false (by decide) (by decide)) ?_
    intro piece hpiece
    obtain ⟨word, _, rfl⟩ := List.mem_map.mp hpiece
    exact inert_conjunct hmark hfield word
  have hor : Inert orChars := inert_of_any_eq_false (by decide) (by decide)
  rw [toList_fieldTerm]
  exact (hhalf '*' (.inl rfl)).enclosed.append (hor.append (hhalf '"' (.inr rfl)).enclosed)

/-- Alternatives that move no reader are bracketed. -/
theorem bracketed_anyOf {terms : List String} (h : ∀ term ∈ terms, Inert term.toList) :
    Bracketed (anyOf terms) := by
  have hinert : Inert (anyOf terms).toList := by
    rw [toList_anyOf]
    refine inert_intercalate (inert_of_any_eq_false (by decide) (by decide)) ?_
    intro piece hpiece
    obtain ⟨term, hterm, rfl⟩ := List.mem_map.mp hpiece
    exact (h term hterm).enclosed
  exact hinert.same .outside

end SearchFilter.Lucene
