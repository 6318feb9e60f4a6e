import Mathlib.Data.List.Infix
import SearchFilter.Text.Split

/-!
# Cutting at a mark or a separator

* Cutting at the first occurrence of a mark undoes joining two texts with it, if the first of them
  is without the mark (`cutAt_append`).
* Cutting at every occurrence of a separator finds the first of two joined texts, if the separator
  occurs neither in this text nor across its end (`splitOn_append`): `a_or` joined to `b` by `_or_`
  is cut as `a` and `or_b`.  So it undoes joining any number of such texts (`splitOn_intercalate`).
  No piece contains the separator (`not_infix_of_mem_splitOn`).
* A word that is none of the pieces between marks stays none when the list is joined to another by
  the word between marks (`not_infix_of_not_mem_pieces`).
* A stretch without the mark that joins some texts occurs in one of them, if it occurs in the whole
  (`infix_intercalate`).
-/

namespace SearchFilter.Text

/-! ## One mark -/

theorem cutAt_append {mark : Char} {cs : List Char} (h : mark ∉ cs) (rest : List Char) :
    cutAt mark (cs ++ mark :: rest) = (cs, some rest) := by
  induction cs with
  | nil => simp [cutAt]
  | cons c cs ih =>
    obtain ⟨hne, hrest⟩ := not_or.mp (mt List.mem_cons.mpr h)
    rw [List.cons_append, cutAt, if_neg (by simpa using Ne.symm hne), ih hrest]

theorem cutAt_of_not_mem {mark : Char} {cs : List Char} (h : mark ∉ cs) :
    cutAt mark cs = (cs, none) := by
  induction cs with
  | nil => rfl
  | cons c cs ih =>
    obtain ⟨hne, hrest⟩ := not_or.mp (mt List.mem_cons.mpr h)
    rw [cutAt, if_neg (by simpa using Ne.symm hne), ih hrest]

theorem fst_cutAt (mark : Char) (cs : List Char) :
    (cutAt mark cs).1 = cs.takeWhile (· != mark) := by
  induction cs with
  | nil => rfl
  | cons c cs ih =>
    rw [cutAt, List.takeWhile_cons]
    by_cases hc : c = mark
    · simp [hc]
    · simp [hc, ih]

theorem length_cutAt_le (mark : Char) (cs : List Char) :
    (cutAt mark cs).1.length + ((cutAt mark cs).2.getD []).length ≤ cs.length := by
  induction cs with
  | nil => exact le_rfl
  | cons c cs ih =>
    rw [cutAt, List.length_cons]
    split
    · rw [List.length_nil, Option.getD_some]
      omega
    · dsimp only
      rw [List.length_cons]
      omega

/-- What was cut is joined again by the mark. -/
theorem eq_append_of_cutAt {mark : Char} {cs first rest : List Char}
    (h : cutAt mark cs = (first, some rest)) : cs = first ++ mark :: rest := by
  induction cs generalizing first with
  | nil => cases h
  | cons c cs ih =>
    rw [cutAt] at h
    split at h
    · next hc =>
      cases h
      rw [beq_iff_eq.mp hc, List.nil_append]
    · obtain ⟨rfl, hrest⟩ := Prod.mk.inj h
      rw [List.cons_append, ← ih (Prod.ext rfl hrest)]

/-! ## A separator -/

section Separator

variable {separator cs : List Char}

theorem splitSkipping_eq_drop (skip : Nat) (cs : List Char) :
    splitSkipping separator skip cs = splitSkipping separator 0 (cs.drop skip) := by
  induction skip generalizing cs with
  | zero => rfl
  | succ skip ih =>
    cases cs with
    | nil => rfl
    | cons c cs => rw [splitSkipping, ih, List.drop_succ_cons]

/-- A separator that is the start of a list is an occurrence of it. -/
private theorem not_isPrefixOf {c : Char} (h : ¬ separator <:+: c :: cs) :
    ¬ separator.isPrefixOf (c :: cs) = true :=
  fun hprefix => h (List.isPrefixOf_iff_prefix.mp hprefix).isInfix

/-- Where the separator does not occur there is one piece. -/
theorem splitSkipping_of_not_infix (h : ¬ separator <:+: cs) :
    splitSkipping separator 0 cs = [cs] := by
  induction cs with
  | nil => rfl
  | cons c cs ih =>
    rw [splitSkipping, if_neg (not_isPrefixOf h), ih fun hrest => h (List.infix_cons hrest)]
    rfl

/-- The first piece ends at the first separator. -/
theorem splitSkipping_append (hne : separator ≠ [])
    (h : ¬ separator <:+: cs ++ separator.dropLast) (rest : List Char) :
    splitSkipping separator 0 (cs ++ (separator ++ rest)) =
      cs :: splitSkipping separator 0 rest := by
  induction cs with
  | nil =>
    obtain ⟨c, others, rfl⟩ := List.exists_cons_of_ne_nil hne
    have hfound : (c :: others).isPrefixOf (c :: (others ++ rest)) = true :=
      List.isPrefixOf_iff_prefix.mpr ⟨rest, rfl⟩
    rw [List.nil_append, List.cons_append, splitSkipping, if_pos hfound, splitSkipping_eq_drop]
    simp
  | cons c cs ih =>
    -- A separator here would be within the piece and the joining separator, but for its last
    -- character: the piece is not empty.
    have hnot : ¬ separator.isPrefixOf (c :: (cs ++ (separator ++ rest))) = true := by
      intro hprefix
      have hhere : separator <+: (c :: cs ++ separator.dropLast) ++
          ([separator.getLast hne] ++ rest) := by
        rw [List.append_assoc, ← List.append_assoc _ _ rest, List.dropLast_append_getLast]
        exact List.isPrefixOf_iff_prefix.mp hprefix
      refine h (List.prefix_of_prefix_length_le hhere (List.prefix_append _ _) ?_).isInfix
      rw [List.length_append, List.length_dropLast, List.length_cons]
      omega
    rw [List.cons_append, splitSkipping, if_neg hnot,
      ih fun hrest => h (List.infix_cons hrest)]
    rfl

/-- There is always a first piece, and the list begins with it. -/
theorem exists_splitSkipping_eq (separator cs : List Char) :
    ∃ first rest, splitSkipping separator 0 cs = first :: rest ∧ first <+: cs := by
  induction cs with
  | nil => exact ⟨[], [], rfl, List.nil_prefix⟩
  | cons c cs ih =>
    rw [splitSkipping]
    split
    · exact ⟨[], _, rfl, List.nil_prefix⟩
    · obtain ⟨first, rest, hrest, hfirst⟩ := ih
      rw [hrest]
      exact ⟨c :: first, rest, rfl, List.cons_prefix_cons.mpr ⟨rfl, hfirst⟩⟩

/-- The separator occurs in no piece. -/
theorem not_infix_of_mem_splitSkipping (hne : separator ≠ []) {skip : Nat} {piece : List Char}
    (hpiece : piece ∈ splitSkipping separator skip cs) : ¬ separator <:+: piece := by
  fun_induction splitSkipping separator skip cs generalizing piece with
  | case1 skip =>
    rw [List.mem_singleton.mp hpiece, List.infix_nil]
    exact hne
  | case2 skip c cs ih => exact ih hpiece
  | case3 c cs hfound ih =>
    rcases List.mem_cons.mp hpiece with rfl | hrest
    · rw [List.infix_nil]
      exact hne
    · exact ih hrest
  | case4 c cs hnot ih =>
    obtain ⟨first, rest, heq, hfirst⟩ := exists_splitSkipping_eq separator cs
    rw [heq] at hpiece ih
    rcases List.mem_cons.mp hpiece with rfl | hrest
    · -- The piece begins where the list begins, and there is no separator.
      rw [List.infix_cons_iff]
      rintro (hhere | hlater)
      · have hstart : c :: first <+: c :: cs := List.cons_prefix_cons.mpr ⟨rfl, hfirst⟩
        exact hnot (List.isPrefixOf_iff_prefix.mpr (hhere.trans hstart))
      · exact ih List.mem_cons_self hlater
    · exact ih (List.mem_cons_of_mem _ hrest)

end Separator

section Mark

variable {mark : Char}

/-- Cutting at one character cuts what is on its two sides. -/
theorem splitSkipping_append_mark (before after : List Char) :
    splitSkipping [mark] 0 (before ++ mark :: after) =
      splitSkipping [mark] 0 before ++ splitSkipping [mark] 0 after := by
  induction before with
  | nil => simp [splitSkipping]
  | cons c cs ih =>
    rw [List.cons_append, splitSkipping, splitSkipping, ih]
    by_cases hc : c = mark
    · subst hc
      simp [ih]
    · obtain ⟨first, rest, heq, -⟩ := exists_splitSkipping_eq [mark] cs
      simp [Ne.symm hc, heq, consToFirst]

/-- A word that is none of the pieces between marks does not occur between two marks, even if a mark
and the word are put behind the list. -/
theorem not_infix_of_not_mem_pieces {word cs : List Char} (hmark : mark ∉ word)
    (hword : word ∉ splitSkipping [mark] 0 cs) :
    ¬ mark :: (word ++ [mark]) <:+: cs ++ mark :: word := by
  rintro ⟨before, after, heq⟩
  have hsingle : splitSkipping [mark] 0 word = [word] :=
    splitSkipping_of_not_infix (by rwa [List.singleton_infix_iff])
  have hcut := congrArg (splitSkipping [mark] 0) heq
  have hjoined : before ++ mark :: (word ++ [mark]) ++ after =
      before ++ mark :: (word ++ mark :: after) := by simp
  rw [hjoined, splitSkipping_append_mark, splitSkipping_append_mark, splitSkipping_append_mark,
    hsingle] at hcut
  -- The last pieces of both sides are put aside; the word is among the others.
  obtain ⟨first, rest, hafter, -⟩ := exists_splitSkipping_eq [mark] after
  have hne : splitSkipping [mark] 0 after ≠ [] := by simp [hafter]
  rw [← List.dropLast_append_getLast hne, ← List.append_assoc, ← List.append_assoc] at hcut
  have hpieces := List.append_inj_left' hcut rfl
  exact hword (by simp [← hpieces])

end Mark

variable {separator first : String}

theorem splitOn_of_not_infix (h : ¬ separator.toList <:+: first.toList) :
    splitOn separator first = [first] := by
  rw [splitOn, splitSkipping_of_not_infix h, List.map_singleton, String.ofList_toList]

/-- The first of two joined texts is the first piece. -/
theorem splitOn_append (hne : separator ≠ "")
    (h : ¬ separator.toList <:+: first.toList ++ separator.toList.dropLast) (rest : String) :
    splitOn separator (first ++ separator ++ rest) = first :: splitOn separator rest := by
  have hchars : separator.toList ≠ [] := by simpa using hne
  rw [splitOn, String.toList_append, String.toList_append, List.append_assoc,
    splitSkipping_append hchars h, List.map_cons, String.ofList_toList, splitOn]

/-- No piece contains the separator. -/
theorem not_infix_of_mem_splitOn (hne : separator ≠ "") {text piece : String}
    (hpiece : piece ∈ splitOn separator text) : ¬ separator.toList <:+: piece.toList := by
  obtain ⟨cs, hcs, rfl⟩ := List.mem_map.mp hpiece
  rw [String.toList_ofList]
  exact not_infix_of_mem_splitSkipping (by simpa using hne) hcs

/-! ## Several texts -/

/-- Cutting at a separator undoes joining with it. -/
theorem splitOn_intercalate (hne : separator ≠ "") {parts : List String} (hparts : parts ≠ [])
    (h : ∀ part ∈ parts, ¬ separator.toList <:+: part.toList ++ separator.toList.dropLast) :
    splitOn separator (separator.intercalate parts) = parts := by
  induction parts with
  | nil => exact absurd rfl hparts
  | cons part rest ih =>
    have hpart := h part List.mem_cons_self
    cases rest with
    | nil =>
      rw [String.intercalate_singleton]
      apply splitOn_of_not_infix
      intro hwithin
      exact hpart (hwithin.trans (List.prefix_append _ _).isInfix)
    | cons next rest =>
      rw [String.intercalate_cons_cons, splitOn_append hne hpart, ih (List.cons_ne_nil _ _)]
      intro other hother
      exact h other (List.mem_cons_of_mem _ hother)

section Stretch

variable {mark : Char} {stretch : List Char} (hmark : mark ∉ stretch)

include hmark

/-- A stretch without a mark stands on one side of it. -/
theorem infix_append_cons {before after : List Char} :
    stretch <:+: before ++ mark :: after ↔ stretch <:+: before ∨ stretch <:+: after := by
  -- Nothing of the stretch can be a start of what begins with the mark.
  have hstart : ∀ {part}, part <+: mark :: after → part ⊆ stretch → part = [] := by
    intro part hpart hsub
    cases part with
    | nil => rfl
    | cons c cs =>
      obtain ⟨rfl, -⟩ := List.cons_prefix_cons.mp hpart
      exact absurd (hsub List.mem_cons_self) hmark
  rw [List.infix_append_iff, List.infix_cons_iff]
  constructor
  · rintro (hbefore | (hwhole | hafter) | ⟨first, last, rfl, hfirst, hlast⟩)
    · exact .inl hbefore
    · rw [hstart hwhole (List.Subset.refl _)]
      exact .inl List.nil_infix
    · exact .inr hafter
    · rw [hstart hlast (List.subset_append_right _ _), List.append_nil]
      exact .inl hfirst.isInfix
  · rintro (hbefore | hafter)
    · exact .inl hbefore
    · exact .inr (.inl (.inr hafter))

/-- A stretch without the mark that joins some texts stands in one of them. -/
theorem infix_intercalate {texts : List (List Char)} (hne : texts ≠ []) :
    stretch <:+: [mark].intercalate texts ↔ ∃ text ∈ texts, stretch <:+: text := by
  induction texts with
  | nil => exact absurd rfl hne
  | cons text rest ih =>
    cases rest with
    | nil => simp
    | cons next rest =>
      rw [List.intercalate_cons_cons, List.append_assoc, List.singleton_append,
        infix_append_cons hmark, ih (List.cons_ne_nil _ _)]
      rw [List.exists_mem_cons_iff (stretch <:+: ·) text (next :: rest)]

end Stretch

end SearchFilter.Text
