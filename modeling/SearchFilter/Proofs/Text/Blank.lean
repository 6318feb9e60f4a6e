import Mathlib.Data.List.TakeWhile
import SearchFilter.Text.Blank

/-!
# Words and blanks

* Words are the stretches between blanks, so no word has a blank in it
  (`not_isBlank_of_mem_words`).
* Cutting a text at a mark undoes joining parts with it (`pieces_intercalate`).
* Trimming takes blanks away at both ends and nothing else (`exists_trim`).
* A text of which something is left after trimming has words (`words_ne_nil`), and a text of blanks
  has none (`words_eq_nil_iff`).
* The words of joined texts are those of the texts (`words_intercalate`).
-/

namespace SearchFilter.Text

/-- No piece has a character at which the list was cut. -/
theorem not_of_mem_pieces {p : Char → Bool} {cs piece : List Char} {c : Char}
    (hpiece : piece ∈ pieces p cs) (hc : c ∈ piece) : p c = false := by
  induction cs generalizing piece with
  | nil =>
    cases List.mem_singleton.mp hpiece
    exact absurd hc List.not_mem_nil
  | cons d cs ih =>
    rw [pieces] at hpiece
    by_cases hd : p d = true
    · rw [if_pos hd] at hpiece
      rcases List.mem_cons.mp hpiece with rfl | hrest
      · exact absurd hc List.not_mem_nil
      · exact ih hrest hc
    · rw [if_neg hd] at hpiece
      have hd' : p d = false := by simpa using hd
      cases hpieces : pieces p cs with
      | nil =>
        rw [hpieces] at hpiece
        cases List.mem_singleton.mp hpiece
        cases List.mem_singleton.mp hc
        exact hd'
      | cons word rest =>
        rw [hpieces] at hpiece ih
        rcases List.mem_cons.mp hpiece with rfl | hrest
        · rcases List.mem_cons.mp hc with rfl | hword
          · exact hd'
          · exact ih List.mem_cons_self hword
        · exact ih (List.mem_cons_of_mem _ hrest) hc

/-- Where nothing is cut there is one piece. -/
theorem pieces_of_forall_not {p : Char → Bool} {cs : List Char} (h : ∀ c ∈ cs, p c = false) :
    pieces p cs = [cs] := by
  induction cs with
  | nil => rfl
  | cons c cs ih =>
    have hrest := ih fun d hd => h d (List.mem_cons_of_mem _ hd)
    rw [pieces, if_neg (by simp [h c List.mem_cons_self]), hrest]

theorem pieces_ne_nil (p : Char → Bool) (cs : List Char) : pieces p cs ≠ [] := by
  cases cs with
  | nil => exact List.cons_ne_nil _ _
  | cons c cs =>
    rw [pieces]
    split
    · exact List.cons_ne_nil _ _
    · split <;> exact List.cons_ne_nil _ _

/-- A character at which nothing is cut belongs to the first piece. -/
theorem pieces_cons_of_not {p : Char → Bool} {c : Char} (hc : p c = false) {cs word : List Char}
    {rest : List (List Char)} (h : pieces p cs = word :: rest) :
    pieces p (c :: cs) = (c :: word) :: rest := by
  rw [pieces, if_neg (by simp [hc]), h]

/-- What the first piece begins with the list begins with. -/
theorem head?_of_pieces_eq_cons {p : Char → Bool} {cs word : List Char} {rest : List (List Char)}
    (h : pieces p cs = word :: rest) {c : Char} (hc : word.head? = some c) :
    cs.head? = some c := by
  cases cs with
  | nil =>
    cases h
    cases hc
  | cons d cs =>
    obtain ⟨first, others, hpieces⟩ := List.exists_cons_of_ne_nil (pieces_ne_nil p cs)
    rw [pieces, hpieces] at h
    split at h
    · cases h
      cases hc
    · cases h
      exact hc

/-- At a mark the pieces of both sides are cut apart. -/
theorem pieces_append_mark {p : Char → Bool} {mark : Char} (hmark : p mark = true)
    (cs rest : List Char) : pieces p (cs ++ mark :: rest) = pieces p cs ++ pieces p rest := by
  induction cs with
  | nil =>
    show pieces p (mark :: rest) = [] :: pieces p rest
    rw [pieces, if_pos hmark]
  | cons c cs ih =>
    rw [List.cons_append, pieces, pieces, ih]
    split
    · rfl
    · cases hpieces : pieces p cs with
      | nil => exact absurd hpieces (pieces_ne_nil p cs)
      | cons word others => rfl

theorem pieces_append_cons {p : Char → Bool} {cs : List Char} (h : ∀ c ∈ cs, p c = false)
    {mark : Char} (hmark : p mark = true) (rest : List Char) :
    pieces p (cs ++ mark :: rest) = cs :: pieces p rest := by
  rw [pieces_append_mark hmark, pieces_of_forall_not h, List.singleton_append]

/-- Cutting at a mark undoes joining with it. -/
theorem pieces_intercalate {p : Char → Bool} {parts : List (List Char)} (hne : parts ≠ [])
    (h : ∀ part ∈ parts, ∀ c ∈ part, p c = false) {mark : Char} (hmark : p mark = true) :
    pieces p ([mark].intercalate parts) = parts := by
  induction parts with
  | nil => exact absurd rfl hne
  | cons part rest ih =>
    have hpart := h part List.mem_cons_self
    cases rest with
    | nil => rw [List.intercalate_singleton, pieces_of_forall_not hpart]
    | cons next rest =>
      rw [List.intercalate_cons_cons, List.append_assoc, List.singleton_append,
        pieces_append_cons hpart hmark,
        ih (List.cons_ne_nil _ _) fun other hother => h other (List.mem_cons_of_mem _ hother)]

/-- No word has a blank in it. -/
theorem not_isBlank_of_mem_words {s word : String} {c : Char} (hword : word ∈ words s)
    (hc : c ∈ word.toList) : isBlank c = false := by
  obtain ⟨cs, hcs, rfl⟩ := List.mem_map.mp hword
  rw [String.toList_ofList] at hc
  exact not_of_mem_pieces (List.mem_filter.mp hcs).1 hc

/-- Blanks in front of a list make no difference to its words. -/
theorem wordsOf_append_of_blank {gap : List Char} (hgap : ∀ c ∈ gap, isBlank c = true)
    (cs : List Char) : wordsOf (gap ++ cs) = wordsOf cs := by
  induction gap with
  | nil => rfl
  | cons c gap ih =>
    have hrest := ih fun d hd => hgap d (List.mem_cons_of_mem _ hd)
    rw [← hrest, List.cons_append, wordsOf, pieces, if_pos (hgap c List.mem_cons_self)]
    rfl

/-- A stretch without blanks is a word if it ends where the list ends or a blank follows. -/
theorem wordsOf_append_of_not_blank {word : List Char} (hne : word ≠ [])
    (hword : ∀ c ∈ word, isBlank c = false) {rest : List Char}
    (hrest : ∀ c ∈ rest.head?, isBlank c = true) :
    wordsOf (word ++ rest) = word :: wordsOf rest := by
  have hkept : (!word.isEmpty) = true := by simpa using hne
  cases rest with
  | nil =>
    rw [List.append_nil, wordsOf, pieces_of_forall_not hword, List.filter_cons, if_pos hkept]
    rfl
  | cons c rest =>
    have hblank : isBlank c = true := hrest c rfl
    have hgap : ∀ d ∈ [c], isBlank d = true := List.forall_mem_singleton.mpr hblank
    rw [← List.singleton_append, wordsOf_append_of_blank hgap, List.singleton_append, wordsOf,
      pieces_append_cons hword hblank, List.filter_cons, if_pos hkept, wordsOf]

/-! ## Trimming -/

theorem exists_dropTrailing (p : Char → Bool) (cs : List Char) :
    ∃ after, cs = dropTrailing p cs ++ after ∧ ∀ c ∈ after, p c = true := by
  refine ⟨(cs.reverse.takeWhile p).reverse, ?_, fun c hc => ?_⟩
  · rw [dropTrailing, ← List.reverse_append, List.takeWhile_append_dropWhile,
      List.reverse_reverse]
  · exact List.mem_takeWhile_imp (List.mem_reverse.mp hc)

theorem exists_trim (cs : List Char) :
    ∃ before after, cs = before ++ (trim cs ++ after) ∧
      (∀ c ∈ before, isBlank c = true) ∧ ∀ c ∈ after, isBlank c = true := by
  obtain ⟨after, hafter, hblank⟩ := exists_dropTrailing isBlank (cs.dropWhile isBlank)
  refine ⟨cs.takeWhile isBlank, after, ?_, fun c hc => List.mem_takeWhile_imp hc, hblank⟩
  rw [trim, ← hafter, List.takeWhile_append_dropWhile]

/-- Blanks around something that neither begins nor ends with a blank are all that is trimmed. -/
theorem trim_append {before inner after : List Char} (hbefore : ∀ c ∈ before, isBlank c = true)
    (hafter : ∀ c ∈ after, isBlank c = true) (hfirst : ∀ c ∈ inner.head?, isBlank c = false)
    (hlast : ∀ c ∈ inner.getLast?, isBlank c = false) :
    trim (before ++ (inner ++ after)) = inner := by
  have hkept : ∀ cs : List Char, (∀ c ∈ cs.head?, isBlank c = false) →
      cs.dropWhile isBlank = cs := by
    intro cs hcs
    cases cs with
    | nil => rfl
    | cons c cs => rw [List.dropWhile_cons_of_neg (by simp [hcs c rfl])]
  cases inner with
  | nil =>
    have hall : ∀ c ∈ before ++ after, isBlank c = true :=
      List.forall_mem_append.mpr ⟨hbefore, hafter⟩
    rw [List.nil_append, trim, List.dropWhile_eq_nil_iff.mpr hall]
    rfl
  | cons c cs =>
    have hend : ∀ d ∈ (c :: cs).reverse.head?, isBlank d = false := by
      rwa [List.head?_reverse]
    have hstart : ∀ d ∈ ((c :: cs) ++ after).head?, isBlank d = false := hfirst
    rw [trim, dropTrailing, List.dropWhile_append_of_pos hbefore, hkept _ hstart,
      List.reverse_append, List.dropWhile_append_of_pos (by simpa using hafter), hkept _ hend,
      List.reverse_reverse]

/-! ## Texts without words -/

theorem exists_mem_pieces {p : Char → Bool} {cs : List Char} {c : Char} (hc : c ∈ cs)
    (hkept : p c = false) : ∃ piece ∈ pieces p cs, c ∈ piece := by
  induction cs with
  | nil => exact absurd hc List.not_mem_nil
  | cons d cs ih =>
    rw [pieces]
    rcases List.mem_cons.mp hc with rfl | hrest
    · rw [if_neg (by simp [hkept])]
      cases pieces p cs <;> exact ⟨_, List.mem_cons_self, List.mem_cons_self⟩
    · obtain ⟨piece, hpiece, hmem⟩ := ih hrest
      split
      · exact ⟨piece, List.mem_cons_of_mem _ hpiece, hmem⟩
      · cases hpieces : pieces p cs with
        | nil =>
          rw [hpieces] at hpiece
          exact absurd hpiece List.not_mem_nil
        | cons first others =>
          rw [hpieces] at hpiece
          rcases List.mem_cons.mp hpiece with rfl | hothers
          · exact ⟨_, List.mem_cons_self, List.mem_cons_of_mem _ hmem⟩
          · exact ⟨piece, List.mem_cons_of_mem _ hothers, hmem⟩

/-- Nothing is left of a text after trimming if it is all blanks, and only then. -/
theorem trim_isEmpty_iff {cs : List Char} :
    (trim cs).isEmpty = true ↔ ∀ c ∈ cs, isBlank c = true := by
  rw [List.isEmpty_iff]
  constructor
  · intro hempty
    obtain ⟨before, after, hcs, hbefore, hafter⟩ := exists_trim cs
    rw [hempty, List.nil_append] at hcs
    rw [hcs, List.forall_mem_append]
    exact ⟨hbefore, hafter⟩
  · intro hall
    rw [trim, List.dropWhile_eq_nil_iff.mpr hall]
    rfl

/-- A text of which something is left has a character that is not blank. -/
theorem exists_not_isBlank {cs : List Char} (h : (trim cs).isEmpty = false) :
    ∃ c ∈ cs, isBlank c = false := by
  by_contra hnone
  have hall : ∀ c ∈ cs, isBlank c = true := by
    intro c hc
    by_contra hblank
    exact hnone ⟨c, hc, by simpa using hblank⟩
  rw [trim_isEmpty_iff.mpr hall] at h
  cases h

/-- A text that is not all blank has words. -/
theorem words_ne_nil {s : String} (h : (trim s.toList).isEmpty = false) : words s ≠ [] := by
  obtain ⟨c, hc, hblank⟩ := exists_not_isBlank h
  obtain ⟨piece, hpiece, hmem⟩ := exists_mem_pieces hc hblank
  have hword : piece ∈ wordsOf s.toList :=
    List.mem_filter.mpr ⟨hpiece, by simpa using List.ne_nil_of_mem hmem⟩
  exact List.ne_nil_of_mem (List.mem_map_of_mem hword)

/-- Where every character is a place to cut, the pieces are empty. -/
theorem eq_nil_of_mem_pieces {p : Char → Bool} {cs piece : List Char} (h : ∀ c ∈ cs, p c = true)
    (hpiece : piece ∈ pieces p cs) : piece = [] := by
  induction cs with
  | nil => exact List.mem_singleton.mp hpiece
  | cons c cs ih =>
    rw [pieces, if_pos (h c List.mem_cons_self)] at hpiece
    rcases List.mem_cons.mp hpiece with rfl | hrest
    · rfl
    · exact ih (fun d hd => h d (List.mem_cons_of_mem _ hd)) hrest

/-- A text has no words exactly when it is all blanks. -/
theorem words_eq_nil_iff {s : String} : words s = [] ↔ ∀ c ∈ s.toList, isBlank c = true := by
  constructor
  · intro hwords
    rw [← trim_isEmpty_iff]
    by_contra hkept
    exact words_ne_nil (by simpa using hkept) hwords
  · intro hall
    have hnone : wordsOf s.toList = [] := by
      rw [wordsOf, List.filter_eq_nil_iff]
      intro piece hpiece
      simp [eq_nil_of_mem_pieces hall hpiece]
    rw [words, hnone, List.map_nil]

theorem words_ne_nil_of_mem {s : String} {c : Char} (hc : c ∈ s.toList)
    (hkept : isBlank c = false) : words s ≠ [] := by
  intro hnil
  rw [words_eq_nil_iff.mp hnil c hc] at hkept
  cases hkept

/-- A text without blanks is one word. -/
theorem words_of_forall_not_blank {s : String} (hne : s.toList ≠ [])
    (h : ∀ c ∈ s.toList, isBlank c = false) : words s = [s] := by
  have hword : wordsOf (s.toList ++ []) = s.toList :: wordsOf [] :=
    wordsOf_append_of_not_blank hne h (by simp)
  rw [List.append_nil] at hword
  rw [words, hword]
  simp [wordsOf, pieces]

/-! ## Joined texts -/

/-- The words of texts that are joined by spaces are those of the texts, one after the other. -/
theorem words_intercalate (items : List String) :
    words (" ".intercalate items) = items.flatMap words := by
  induction items with
  | nil => rfl
  | cons item rest ih =>
    cases rest with
    | nil => simp
    | cons next rest =>
      have hjoined : (" ".intercalate (item :: next :: rest)).toList =
          item.toList ++ ' ' :: (" ".intercalate (next :: rest)).toList := by
        rw [String.intercalate_cons_cons, String.toList_append, String.toList_append]
        simp
      rw [List.flatMap_cons, ← ih, words, hjoined, wordsOf, pieces_append_mark (by decide),
        List.filter_append, List.map_append]
      rfl

/-- Texts that are joined by spaces have no word if none of them has one. -/
theorem words_intercalate_eq_nil_iff {items : List String} :
    words (" ".intercalate items) = [] ↔ ∀ item ∈ items, words item = [] := by
  rw [words_intercalate, List.flatMap_eq_nil_iff]

end SearchFilter.Text
