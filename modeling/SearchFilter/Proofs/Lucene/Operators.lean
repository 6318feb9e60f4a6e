import Mathlib.Data.List.Infix
import SearchFilter.Proofs.Lucene.Marks

/-!
# Live operators of escaped text

In an escaped text no operator of one character is live, and no backslash waits for a character.
For the operators `&&` and `||` this depends on the text: escaping goes through it from left to
right and puts one backslash in front of each pair, so of three in a row the first is literal and
the other two are a live operator.

* `HasOddRun` are the texts with a run of equal characters that is longer than one and cannot be
  cut into pairs.
* `hasLivePair_marks_escapeChars` follows the escaping through a text: a pair is live exactly where
  it is left over from such a run.
* `noLiveOperator_escape_iff` is the result for whole texts.
-/

namespace SearchFilter.Lucene

/-! ## Runs -/

/-- The character stands `n` times in a row, with no more of it on either side. -/
def IsRun (c : Char) (n : Nat) (cs : List Char) : Prop :=
  ∃ before after, cs = before ++ (List.replicate n c ++ after) ∧
    before.getLast? ≠ some c ∧ after.head? ≠ some c

/-- A run of three, five, seven and so on. -/
def HasOddRun (c : Char) (cs : List Char) : Prop :=
  ∃ n, IsRun c (2 * n + 3) cs

variable {c d : Char} {cs : List Char}

theorem hasOddRun_nil : ¬ HasOddRun c [] := by
  rintro ⟨n, before, after, h, -, -⟩
  have hlength := congrArg List.length h
  simp only [List.length_nil, List.length_append, List.length_replicate] at hlength
  omega

/-- A character in front is no part of a run of another. -/
theorem hasOddRun_cons_of_ne (hne : d ≠ c) (cs : List Char) :
    HasOddRun c (d :: cs) ↔ HasOddRun c cs := by
  constructor
  · rintro ⟨n, before, after, h, hbefore, hafter⟩
    cases before with
    | nil => exact absurd (List.cons.inj h).1 hne
    | cons e before =>
      refine ⟨n, before, after, (List.cons.inj h).2, fun hlast => hbefore ?_, hafter⟩
      rw [List.getLast?_cons, hlast, Option.getD_some]
  · rintro ⟨n, before, after, rfl, hbefore, hafter⟩
    refine ⟨n, d :: before, after, rfl, fun hlast => ?_, hafter⟩
    cases before with
    | nil => exact hne (by simpa using hlast)
    | cons e before => exact hbefore (by rwa [List.getLast?_cons_cons] at hlast)

/-- A character that stands alone is no part of a longer run. -/
theorem hasOddRun_cons_self (halone : cs.head? ≠ some c) :
    HasOddRun c (c :: cs) ↔ HasOddRun c cs := by
  constructor
  · rintro ⟨n, before, after, h, hbefore, hafter⟩
    cases before with
    | nil =>
      obtain ⟨-, rfl⟩ := List.cons.inj h
      exact absurd rfl halone
    | cons e before =>
      refine ⟨n, before, after, (List.cons.inj h).2, fun hlast => hbefore ?_, hafter⟩
      rw [List.getLast?_cons, hlast, Option.getD_some]
  · rintro ⟨n, before, after, rfl, hbefore, hafter⟩
    cases before with
    | nil => exact absurd rfl halone
    | cons e before =>
      refine ⟨n, c :: e :: before, after, rfl, ?_, hafter⟩
      rwa [List.getLast?_cons_cons]

/-- Two more characters make an odd run of a single one, and leave the others as they are. -/
theorem hasOddRun_cons_cons_self :
    HasOddRun c (c :: c :: cs) ↔
      (∃ rest, cs = c :: rest ∧ rest.head? ≠ some c) ∨ HasOddRun c cs := by
  constructor
  · rintro ⟨n, before, after, h, hbefore, hafter⟩
    match before with
    | [] =>
      have hcs : cs = List.replicate (2 * n + 1) c ++ after := (List.cons.inj (List.cons.inj h).2).2
      cases n with
      | zero => exact .inl ⟨after, hcs, hafter⟩
      | succ n => exact .inr ⟨n, [], after, hcs, by simp, hafter⟩
    | [e] =>
      obtain ⟨rfl, -⟩ := List.cons.inj h
      exact absurd rfl hbefore
    | e :: f :: before =>
      have hcs : cs = before ++ (List.replicate (2 * n + 3) c ++ after) :=
        (List.cons.inj (List.cons.inj h).2).2
      refine .inr ⟨n, before, after, hcs, fun hlast => hbefore ?_, hafter⟩
      rw [List.getLast?_cons_cons, List.getLast?_cons, hlast, Option.getD_some]
  · rintro (⟨rest, rfl, hrest⟩ | ⟨n, before, after, rfl, hbefore, hafter⟩)
    · exact ⟨0, [], rest, rfl, by simp, hrest⟩
    · cases before with
      | nil => exact ⟨n + 1, [], after, rfl, by simp, hafter⟩
      | cons e before => exact ⟨n, c :: c :: e :: before, after, rfl, hbefore, hafter⟩

/-! ## Live pairs -/

/-- The character is read twice in a row, both times live. -/
def HasLivePair (c : Char) (ms : List Mark) : Prop :=
  [.live c, .live c] <:+: ms

instance (c : Char) (ms : List Mark) : Decidable (HasLivePair c ms) :=
  inferInstanceAs (Decidable (_ <:+: _))

theorem hasLivePair_cons_of_ne {m : Mark} (hm : m ≠ .live c) (ms : List Mark) :
    HasLivePair c (m :: ms) ↔ HasLivePair c ms := by
  rw [HasLivePair, List.infix_cons_iff, List.cons_prefix_cons]
  exact or_iff_right fun h => hm h.1.symm

theorem hasLivePair_cons_self (ms : List Mark) :
    HasLivePair c (.live c :: ms) ↔ ms.head? = some (.live c) ∨ HasLivePair c ms := by
  rw [HasLivePair, List.infix_cons_iff, List.cons_prefix_cons, HasLivePair]
  refine or_congr_left ⟨?_, fun h => ?_⟩
  · rintro ⟨-, rest, rfl⟩
    rfl
  · obtain ⟨rest, rfl⟩ := List.head?_eq_some_iff.mp h
    exact ⟨rfl, rest, rfl⟩

/-! ## The reading of escaped text -/

/-- The characters that are operators when they stand twice. -/
def pairOperators : List Char := ['&', '|']

theorem not_isOperator_of_mem_pairOperators (hc : c ∈ pairOperators) : isOperator c = false := by
  rcases List.mem_pair.mp hc with rfl | rfl <;> rfl

/-- What is not escaped as a pair stands alone. -/
theorem head?_ne_of_not_pair (hc : c ∈ pairOperators)
    (hamp : ∀ rest, c = '&' → cs = '&' :: rest → False)
    (hbar : ∀ rest, c = '|' → cs = '|' :: rest → False) : cs.head? ≠ some c := by
  intro hhead
  obtain ⟨rest, rfl⟩ := List.head?_eq_some_iff.mp hhead
  rcases List.mem_pair.mp hc with rfl | rfl
  · exact hamp rest rfl rfl
  · exact hbar rest rfl rfl

/-- The reading begins with a live character of a pair where the text begins with a single one. -/
theorem head?_marks_escapeChars (hc : c ∈ pairOperators) (cs : List Char) :
    (marks (escapeChars cs)).head? = some (.live c) ↔
      ∃ rest, cs = c :: rest ∧ rest.head? ≠ some c := by
  have hplain := not_isOperator_of_mem_pairOperators hc
  fun_cases escapeChars cs with
  | case1 => simp
  | case2 cs | case3 cs =>
    refine iff_of_false (fun h => nomatch h) ?_
    rintro ⟨rest, h, hrest⟩
    obtain ⟨rfl, rfl⟩ := List.cons.inj h
    exact hrest rfl
  | case4 d cs hamp hbar hop =>
    refine iff_of_false (fun h => nomatch h) ?_
    rintro ⟨rest, h, -⟩
    obtain ⟨rfl, rfl⟩ := List.cons.inj h
    rw [hplain] at hop
    cases hop
  | case5 d cs hamp hbar hop =>
    have hd : isOperator d = false := by simpa using hop
    rw [marks_cons (ne_backslash_of_not_isOperator hd), List.head?_cons]
    constructor
    · intro h
      obtain rfl : d = c := by simpa using h
      exact ⟨cs, rfl, head?_ne_of_not_pair hc hamp hbar⟩
    · rintro ⟨rest, h, -⟩
      rw [(List.cons.inj h).1]

/-- A pair that is escaped shortens a run of its character by two, and is no part of a run of
another. -/
theorem hasLivePair_pair_iff (hc : c ∈ pairOperators)
    (h : HasLivePair c (marks (escapeChars cs)) ↔ HasOddRun c cs) (d : Char) :
    HasLivePair c (.literal d :: .live d :: marks (escapeChars cs)) ↔
      HasOddRun c (d :: d :: cs) := by
  rw [hasLivePair_cons_of_ne (by simp)]
  by_cases hd : d = c
  · subst hd
    rw [hasLivePair_cons_self, head?_marks_escapeChars hc, h, hasOddRun_cons_cons_self]
  · rw [hasLivePair_cons_of_ne (by simpa using hd), h, hasOddRun_cons_of_ne hd,
      hasOddRun_cons_of_ne hd]

/-- A pair is live exactly where it is left over from an odd run. -/
theorem hasLivePair_marks_escapeChars (hc : c ∈ pairOperators) (cs : List Char) :
    HasLivePair c (marks (escapeChars cs)) ↔ HasOddRun c cs := by
  fun_induction escapeChars cs with
  | case1 => exact iff_of_false (by simp [HasLivePair]) hasOddRun_nil
  | case2 cs ih => exact hasLivePair_pair_iff hc ih '&'
  | case3 cs ih => exact hasLivePair_pair_iff hc ih '|'
  | case4 d cs _ _ hop ih =>
    have hd : d ≠ c := by
      rintro rfl
      rw [not_isOperator_of_mem_pairOperators hc] at hop
      cases hop
    show HasLivePair c (.literal d :: marks (escapeChars cs)) ↔ _
    rw [hasLivePair_cons_of_ne (by simp), hasOddRun_cons_of_ne hd, ih]
  | case5 d cs hamp hbar hop ih =>
    have hlive : isOperator d = false := by simpa using hop
    rw [marks_cons (ne_backslash_of_not_isOperator hlive)]
    by_cases hd : d = c
    · subst hd
      -- Two of them would have been taken as a pair, so neither a run nor a live pair begins here.
      have halone : cs.head? ≠ some d := head?_ne_of_not_pair hc hamp hbar
      have hnext : (marks (escapeChars cs)).head? ≠ some (.live d) := by
        intro hhead
        obtain ⟨rest, rfl, -⟩ := (head?_marks_escapeChars hc cs).mp hhead
        exact halone rfl
      rw [hasLivePair_cons_self, or_iff_right hnext, ih, hasOddRun_cons_self halone]
    · rw [hasLivePair_cons_of_ne (by simpa using hd), hasOddRun_cons_of_ne hd, ih]

/-! ## Escaped texts -/

/-- A reader of the text meets no live operator: none of one character, no backslash at the end that
waits for a character, and no pair. -/
structure NoLiveOperator (text : String) : Prop where
  single : ∀ c, .live c ∈ marks text.toList → isOperator c = false
  complete : Complete text.toList
  pair : ∀ c ∈ pairOperators, ¬ HasLivePair c (marks text.toList)

/-- No operator of one character is live in an escaped text, and nothing waits at its end.  A pair
is live exactly if `&` or `|` comes in a run of three, five, seven and so on. -/
theorem noLiveOperator_escape_iff (text : String) :
    (∀ c, .live c ∈ marks (escape text).toList → isOperator c = false) ∧
      Complete (escape text).toList ∧
      (NoLiveOperator (escape text) ↔ ∀ c ∈ pairOperators, ¬ HasOddRun c text.toList) := by
  have hchars : (escape text).toList = escapeChars text.toList := String.toList_ofList
  have hsingle : ∀ c, .live c ∈ marks (escape text).toList → isOperator c = false := by
    rw [hchars]
    exact fun c hc => not_isOperator_of_live_mem hc
  have hcomplete : Complete (escape text).toList := hchars ▸ complete_escapeChars text.toList
  have hpair : ∀ c ∈ pairOperators,
      (HasLivePair c (marks (escape text).toList) ↔ HasOddRun c text.toList) := by
    rw [hchars]
    exact fun c hc => hasLivePair_marks_escapeChars hc text.toList
  refine ⟨hsingle, hcomplete, fun h c hc => ?_, fun h => ⟨hsingle, hcomplete, fun c hc => ?_⟩⟩
  · rw [← hpair c hc]
    exact h.pair c hc
  · rw [hpair c hc]
    exact h c hc

/-- Of three ampersands the last two are live: the first two have been taken for the pair. -/
theorem not_noLiveOperator_three_ampersands :
    escape "&&&" = "\\&&&" ∧ ¬ NoLiveOperator (escape "&&&") := by
  have hescape : escape "&&&" = "\\&&&" := by decide
  have hlive : HasLivePair '&' (marks (escape "&&&").toList) := by decide
  exact ⟨hescape, fun h => h.pair '&' (by decide) hlive⟩

end SearchFilter.Lucene
