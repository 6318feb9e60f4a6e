import SearchFilter.Proofs.Lucene.Bracketing

/-!
# Cutting query text outside of brackets

`splitOutside` cuts the marks of a text at a separator, but only where the reader of
`SearchFilter.Proofs.Lucene.Bracketing` is outside of all brackets.

* `Solid` is the invariant: a reader goes through a piece without meeting a live blank while it is
  outside of brackets.  Parentheses and quotes make solid pieces (`Solid.enclosed`,
  `Solid.quoted`).
* A separator that begins with a blank does not begin inside a solid piece, so cutting is the
  inverse of joining (`splitOutside_intercalate`).
-/

namespace SearchFilter.Lucene

/-! ## Cutting outside of brackets -/

/-- Puts marks before the first of several pieces. -/
def prependToFirst (ms : List Mark) : List (List Mark) → List (List Mark)
  | [] => [ms]
  | piece :: rest => (ms ++ piece) :: rest

/-- Cuts at the occurrences of `separator` outside of brackets, after skipping `skip` marks that
belong to an occurrence already found.  A closing parenthesis that closes nothing is passed over. -/
def splitOutside (separator : List Mark) : Nat → Nesting → List Mark → List (List Mark)
  | _, _, [] => [[]]
  | skip + 1, nesting, _ :: ms => splitOutside separator skip nesting ms
  | 0, nesting, m :: ms =>
    if nesting = .outside ∧ separator.isPrefixOf (m :: ms) = true then
      [] :: splitOutside separator (separator.length - 1) nesting ms
    else prependToFirst [m] (splitOutside separator 0 ((nesting.after m).getD nesting) ms)

/-! ## Solid pieces -/

/-- A reader comes from one place to another and meets no blank while it is outside of brackets. -/
inductive Solid : Nesting → List Mark → Nesting → Prop
  | nil (nesting) : Solid nesting [] nesting
  | cons {nesting next last : Nesting} {m : Mark} {ms : List Mark}
      (hblank : nesting = .outside → m ≠ .live ' ') (hafter : nesting.after m = some next)
      (hrest : Solid next ms last) : Solid nesting (m :: ms) last

theorem Solid.append {a b c : Nesting} {xs ys : List Mark} (hx : Solid a xs b)
    (hy : Solid b ys c) : Solid a (xs ++ ys) c := by
  induction hx with
  | nil => exact hy
  | cons hblank hafter _ ih => exact .cons hblank hafter (ih hy)

/-- Without live brackets and, outside, without live blanks, a reader stays where it is. -/
theorem solid_of_forall_live {nesting : Nesting} {ms : List Mark}
    (hbracket : ∀ c, .live c ∈ ms → isBracket c = false)
    (hblank : nesting = .outside → .live ' ' ∉ ms) : Solid nesting ms nesting := by
  induction ms with
  | nil => exact .nil nesting
  | cons m ms ih =>
    have hafter : nesting.after m = some nesting := by
      cases m with
      | literal c => rfl
      | live c => exact after_live_of_not_isBracket (hbracket c List.mem_cons_self) nesting
    refine .cons (fun hout hm => hblank hout (hm ▸ List.mem_cons_self)) hafter (ih ?_ ?_)
    · exact fun c hc => hbracket c (List.mem_cons_of_mem _ hc)
    · exact fun hout hmem => hblank hout (List.mem_cons_of_mem _ hmem)

/-- Nothing changes for a reader that is deeper in parentheses, except that blanks do not count. -/
theorem Solid.deeper {nesting last : Nesting} {ms : List Mark} (h : Solid nesting ms last) :
    Solid ⟨nesting.depth + 1, nesting.quoted⟩ ms ⟨last.depth + 1, last.quoted⟩ := by
  induction h with
  | nil => exact .nil _
  | @cons nesting next last m ms _ hafter _ ih =>
    refine .cons (fun hout => by simp [Nesting.outside] at hout) ?_ ih
    cases m with
    | literal c =>
      cases hafter
      rfl
    | live c =>
      simp only [Nesting.after] at hafter ⊢
      split_ifs at hafter ⊢ <;> grind

theorem solid_intercalate {nesting : Nesting} {separator : List Mark}
    (hseparator : Solid nesting separator nesting) {pieces : List (List Mark)}
    (h : ∀ piece ∈ pieces, Solid nesting piece nesting) :
    Solid nesting (separator.intercalate pieces) nesting := by
  induction pieces with
  | nil => exact .nil nesting
  | cons piece rest ih =>
    have hfirst := h piece List.mem_cons_self
    have hrest := ih fun p hp => h p (List.mem_cons_of_mem _ hp)
    cases rest with
    | nil => simpa using hfirst
    | cons next rest =>
      rw [List.intercalate_cons_cons]
      exact (hfirst.append hseparator).append hrest

/-- Parentheses make any piece solid, if it is solid inside of them. -/
theorem Solid.enclosed {depth : Nat} {ms : List Mark}
    (h : Solid ⟨depth + 1, false⟩ ms ⟨depth + 1, false⟩) :
    Solid ⟨depth, false⟩ (.live '(' :: (ms ++ [.live ')'])) ⟨depth, false⟩ := by
  refine .cons (fun _ => by decide) rfl (h.append (.cons (fun _ => by decide) ?_ (.nil _)))
  simp [Nesting.after]

/-- Quotes make any piece solid that has no live brackets. -/
theorem Solid.quoted {depth : Nat} {ms : List Mark}
    (hbracket : ∀ c, .live c ∈ ms → isBracket c = false) :
    Solid ⟨depth, false⟩ (.live '"' :: (ms ++ [.live '"'])) ⟨depth, false⟩ := by
  have hinside : Solid ⟨depth, true⟩ ms ⟨depth, true⟩ :=
    solid_of_forall_live hbracket (by simp [Nesting.outside])
  exact .cons (fun _ => by decide) rfl
    (hinside.append (.cons (fun _ => by decide) rfl (.nil _)))

/-! ## Cutting and joining -/

section Cutting

variable {separator : List Mark}

theorem splitOutside_ne_nil (skip : Nat) (nesting : Nesting) (ms : List Mark) :
    splitOutside separator skip nesting ms ≠ [] := by
  induction ms generalizing skip nesting with
  | nil => simp [splitOutside]
  | cons m ms ih =>
    cases skip with
    | succ skip => exact ih skip nesting
    | zero =>
      rw [splitOutside]
      split
      · simp
      · cases splitOutside separator 0 ((nesting.after m).getD nesting) ms <;>
          simp [prependToFirst]

theorem splitOutside_skip (nesting : Nesting) (xs ms : List Mark) :
    splitOutside separator xs.length nesting (xs ++ ms) = splitOutside separator 0 nesting ms := by
  induction xs with
  | nil => rfl
  | cons x xs ih => exact ih

theorem prependToFirst_append (xs ys : List Mark) {pieces : List (List Mark)}
    (hpieces : pieces ≠ []) :
    prependToFirst (xs ++ ys) pieces = prependToFirst xs (prependToFirst ys pieces) := by
  cases pieces with
  | nil => exact absurd rfl hpieces
  | cons piece rest => simp [prependToFirst]

variable {rest : List Mark} (hseparator : separator = .live ' ' :: rest)

include hseparator

/-- A separator begins with a blank, so none begins inside a solid piece. -/
theorem splitOutside_solid {nesting last : Nesting} {ms : List Mark}
    (h : Solid nesting ms last) (next : List Mark) :
    splitOutside separator 0 nesting (ms ++ next) =
      prependToFirst ms (splitOutside separator 0 last next) := by
  induction h with
  | nil nesting =>
    cases hpieces : splitOutside separator 0 nesting next with
    | nil => exact absurd hpieces (splitOutside_ne_nil 0 nesting next)
    | cons piece pieces => simp [hpieces, prependToFirst]
  | @cons nesting after last m ms hblank hafter hrest ih =>
    -- The separator begins with a live blank, and outside of brackets this mark is none.
    have hnot : ¬ (nesting = .outside ∧ separator.isPrefixOf (m :: (ms ++ next)) = true) := by
      rintro ⟨hout, hprefix⟩
      rw [hseparator, List.isPrefixOf] at hprefix
      simp only [Bool.and_eq_true, beq_iff_eq] at hprefix
      exact hblank hout hprefix.1.symm
    rw [List.cons_append, splitOutside, if_neg hnot, hafter, Option.getD_some, ih,
      ← prependToFirst_append _ _ (splitOutside_ne_nil 0 last next)]
    rfl

/-- Solid pieces are found again between their separators. -/
theorem splitOutside_intercalate {pieces : List (List Mark)} (hne : pieces ≠ [])
    (h : ∀ piece ∈ pieces, Solid .outside piece .outside) :
    splitOutside separator 0 .outside (separator.intercalate pieces) = pieces := by
  induction pieces with
  | nil => exact absurd rfl hne
  | cons piece others ih =>
    have hfirst : Solid .outside piece .outside := h piece List.mem_cons_self
    cases others with
    | nil =>
      have hone := splitOutside_solid hseparator hfirst []
      simpa [splitOutside, prependToFirst] using hone
    | cons next others =>
      have hrest := ih (by simp) fun p hp => h p (List.mem_cons_of_mem _ hp)
      rw [List.intercalate_cons_cons, List.append_assoc, splitOutside_solid hseparator hfirst]
      have hcut : splitOutside separator 0 .outside
          (separator ++ separator.intercalate (next :: others)) =
            [] :: splitOutside separator 0 .outside (separator.intercalate (next :: others)) := by
        have hprefix : separator.isPrefixOf
            (separator ++ separator.intercalate (next :: others)) = true := by simp
        subst hseparator
        rw [List.cons_append] at hprefix ⊢
        rw [splitOutside, if_pos ⟨rfl, hprefix⟩, List.length_cons, Nat.add_sub_cancel,
          splitOutside_skip]
      rw [hcut, hrest]
      simp [prependToFirst]

end Cutting

end SearchFilter.Lucene
