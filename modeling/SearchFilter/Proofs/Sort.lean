import Mathlib.Data.List.Forall2
import SearchFilter.Proofs.Number.Numerals
import SearchFilter.Proofs.Value.Written
import SearchFilter.Sort

/-!
# Writing sort directives

A sort order is written as a text of words: the field of every criterion, and after it the word for
its direction.  Commas and blanks stand between the words, directions may be in any letter case
(`Direction.Spells`), and that of an ascending criterion may be left out, unless the field of the
next criterion would be taken for it.

* `Written` says which words stand for a list of criteria.  The criteria that are read from some
  words are the only ones for which the words stand (`ofWords_eq`, `written_ofWords`).
* `Spaced` says which texts consist of some words.  Every text does, and these are the words that
  are read from it (`textWords_eq`, `exists_spaced`).
* A directive has a text unless an integer in it is too long to be written (`HasText`,
  `hasText_iff`), and without a text it is refused.

The main result is `ofDirective_written`.
-/

namespace SearchFilter

/-! ## Words for directions -/

/-- The word for a direction, its letters small or capital in any mix. -/
def Direction.Spells (direction : Direction) (word : String) : Prop :=
  List.Forall₂ (fun c small => c = small ∨ Text.capital small = [c])
    word.toList direction.word.toList

/-- The letters of the words for directions. -/
def Direction.letters : List Char :=
  ['a', 'c', 'd', 'e', 's']

/-- The capital form of such a letter stands 32 places before it. -/
theorem capital_of_mem_letters {small : Char} (hsmall : small ∈ Direction.letters) :
    Text.capital small = [Char.ofNat (small.toNat - 32)] ∧ Text.lowerChar small = small ∧
      Text.lowerChar (Char.ofNat (small.toNat - 32)) = small := by
  have hall : Direction.letters.all (fun small =>
      Text.capital small == [Char.ofNat (small.toNat - 32)] && Text.lowerChar small == small &&
        Text.lowerChar (Char.ofNat (small.toNat - 32)) == small) = true := by
    decide +kernel
  have hletter := List.all_eq_true.mp hall small hsmall
  simpa [and_assoc] using hletter

/-- Only such a letter and its capital form have it for their small form. -/
theorem lowerChar_eq_iff {c small : Char} (hsmall : small ∈ Direction.letters) :
    Text.lowerChar c = small ↔ c = small ∨ Text.capital small = [c] := by
  obtain ⟨hcapital, hself, hlower⟩ := capital_of_mem_letters hsmall
  constructor
  · intro h
    rw [Text.lowerChar] at h
    split at h
    · next hrange =>
      have hplace : 65 ≤ c.toNat ∧ c.toNat ≤ 90 := by
        rw [Bool.and_eq_true, decide_eq_true_eq, decide_eq_true_eq] at hrange
        exact ⟨UInt32.le_iff_toNat_le.mp hrange.1, UInt32.le_iff_toNat_le.mp hrange.2⟩
      have hall : (List.range' 65 26).all (fun n =>
          !Direction.letters.contains (Char.ofNat (n + 32)) ||
            Text.capital (Char.ofNat (n + 32)) == [Char.ofNat n]) = true := by
        decide +kernel
      have hchecked := List.all_eq_true.mp hall c.toNat (by rw [List.mem_range'_1]; omega)
      rw [h, Char.ofNat_toNat] at hchecked
      exact .inr (by simpa [hsmall] using hchecked)
    · split at h
      · rw [← h] at hsmall
        exact absurd hsmall (by decide)
      · exact .inl h
  · rintro (rfl | h)
    · exact hself
    · rw [hcapital] at h
      rw [← List.head_eq_of_cons_eq h]
      exact hlower

theorem map_lowerChar_eq_iff {cs smalls : List Char}
    (hsmalls : ∀ small ∈ smalls, small ∈ Direction.letters) :
    cs.map Text.lowerChar = smalls ↔
      List.Forall₂ (fun c small => c = small ∨ Text.capital small = [c]) cs smalls := by
  induction smalls generalizing cs with
  | nil => simp
  | cons small smalls ih =>
    obtain ⟨hsmall, hrest⟩ := List.forall_mem_cons.mp hsmalls
    cases cs with
    | nil => simp
    | cons c cs => simp [lowerChar_eq_iff hsmall, ih hrest]

namespace Direction

theorem ofWord?_eq_some_iff {word : String} {direction : Direction} :
    ofWord? word = some direction ↔ word = direction.word := by
  rw [ofWord?]
  by_cases hasc : word = "asc"
  · subst hasc
    cases direction <;> decide
  · by_cases hdesc : word = "desc"
    · subst hdesc
      cases direction <;> decide
    · cases direction <;> simp [hasc, hdesc, Direction.word]

/-- A word is taken for a direction exactly when it spells it. -/
theorem ofWord?_lower_eq_some_iff {word : String} {direction : Direction} :
    ofWord? (Text.lower word) = some direction ↔ direction.Spells word := by
  have hall : direction.word.toList.all letters.contains = true := by
    cases direction <;> decide
  have hletters : ∀ small ∈ direction.word.toList, small ∈ letters := fun small hsmall =>
    List.contains_iff_mem.mp (List.all_eq_true.mp hall small hsmall)
  rw [ofWord?_eq_some_iff, Spells, ← map_lowerChar_eq_iff hletters, Text.lower,
    ← String.toList_inj, String.toList_ofList]

instance (direction : Direction) (word : String) : Decidable (direction.Spells word) :=
  decidable_of_iff _ ofWord?_lower_eq_some_iff

end Direction

namespace SortField

/-! ## Words for criteria -/

/-- Words stand for a list of criteria. -/
inductive Written : List SortField → List String → Prop
  | nil : Written [] []
  /-- A field is followed by a word for its direction. -/
  | stated {field word : String} {direction : Direction} {rest : List SortField}
      {words : List String} (hspells : direction.Spells word) (hrest : Written rest words) :
      Written (⟨field, direction⟩ :: rest) (field :: word :: words)
  /-- An ascending field stands alone, and the next field cannot be taken for its direction. -/
  | implied {field : String} {rest : List SortField} {words : List String}
      (hnext : ∀ next ∈ rest.head?, ∀ direction : Direction, ¬ direction.Spells next.field)
      (hrest : Written rest words) :
      Written (⟨field, .ascending⟩ :: rest) (field :: words)

/-- The first word is the field of the first criterion. -/
theorem Written.head?_eq {criteria : List SortField} {words : List String}
    (h : Written criteria words) : words.head? = criteria.head?.map field := by
  cases h <;> rfl

theorem ofWords_stated {field word : String} {direction : Direction} (words : List String)
    (h : direction.Spells word) :
    ofWords (field :: word :: words) = ⟨field, direction⟩ :: ofWords words := by
  rw [ofWords, Direction.ofWord?_lower_eq_some_iff.mpr h]

theorem ofWords_implied {field : String} {words : List String}
    (h : ∀ next ∈ words.head?, ∀ direction : Direction, ¬ direction.Spells next) :
    ofWords (field :: words) = ⟨field, .ascending⟩ :: ofWords words := by
  cases words with
  | nil => rfl
  | cons next rest =>
    have hnone : Direction.ofWord? (Text.lower next) = none := by
      rw [Option.eq_none_iff_forall_ne_some]
      intro direction hsome
      exact h next rfl direction (Direction.ofWord?_lower_eq_some_iff.mp hsome)
    rw [ofWords, hnone]

/-- Reading undoes writing. -/
theorem Written.ofWords_eq {criteria : List SortField} {words : List String}
    (h : Written criteria words) : ofWords words = criteria := by
  induction h with
  | nil => rfl
  | stated hspells _ ih => rw [ofWords_stated _ hspells, ih]
  | implied hnext hrest ih =>
    rw [ofWords_implied, ih]
    rw [hrest.head?_eq]
    simpa using hnext

/-- The first criterion that is read is about the first word. -/
theorem head?_ofWords (words : List String) :
    (ofWords words).head?.map field = words.head? := by
  fun_cases ofWords words <;> rfl

/-- Any words are read as criteria for which they stand. -/
theorem written_ofWords (words : List String) : Written (ofWords words) words := by
  fun_induction ofWords words with
  | case1 => exact .nil
  | case2 field => exact .implied nofun .nil
  | case3 field next rest direction hdirection ih =>
    exact .stated (Direction.ofWord?_lower_eq_some_iff.mp hdirection) ih
  | case4 field next rest hnone ih =>
    refine .implied ?_ ih
    intro criterion hcriterion direction hspells
    have hfield := head?_ofWords (next :: rest)
    rw [Option.mem_def.mp hcriterion] at hfield
    have hnext : criterion.field = next := Option.some.inj hfield
    rw [hnext, ← Direction.ofWord?_lower_eq_some_iff, hnone] at hspells
    cases hspells

/-! ## Texts of words -/

/-- The characters that may stand between the words of a directive. -/
def isGap (c : Char) : Bool :=
  Text.isBlank c || c == ','

/-- A text that can be a word of a directive. -/
def IsToken (word : String) : Prop :=
  word ≠ "" ∧ ∀ c ∈ word.toList, isGap c = false

/-- A text consists of words with gaps between them, and perhaps around them. -/
inductive Spaced : List String → List Char → Prop
  | nil {gap : List Char} (hgap : ∀ c ∈ gap, isGap c = true) : Spaced [] gap
  /-- A word ends where the text ends or a gap begins. -/
  | cons {gap : List Char} {word : String} {words : List String} {rest : List Char}
      (hgap : ∀ c ∈ gap, isGap c = true) (hword : IsToken word)
      (hend : ∀ c ∈ rest.head?, isGap c = true) (hrest : Spaced words rest) :
      Spaced (word :: words) (gap ++ (word.toList ++ rest))

/-- A comma counts as a space. -/
def blankForComma (c : Char) : Char :=
  if c == ',' then ' ' else c

theorem isBlank_blankForComma (c : Char) : Text.isBlank (blankForComma c) = isGap c := by
  rw [blankForComma, isGap]
  by_cases hc : c = ','
  · subst hc
    rfl
  · simp [hc]

theorem blankForComma_of_not_isGap {c : Char} (h : isGap c = false) : blankForComma c = c := by
  rw [isGap, Bool.or_eq_false_iff] at h
  rw [blankForComma, h.2]
  rfl

/-- The words of which a text consists are its words when commas count as blanks. -/
theorem Spaced.wordsOf_eq {words : List String} {text : List Char} (h : Spaced words text) :
    (Text.wordsOf (text.map blankForComma)).map String.ofList = words := by
  have hblank : ∀ {gap : List Char}, (∀ c ∈ gap, isGap c = true) →
      ∀ c ∈ gap.map blankForComma, Text.isBlank c = true := by
    intro gap hgap
    rw [List.forall_mem_map]
    intro c hc
    rw [isBlank_blankForComma, hgap c hc]
  induction h with
  | nil hgap =>
    have hnone := Text.wordsOf_append_of_blank (hblank hgap) []
    rw [List.append_nil] at hnone
    rw [hnone]
    rfl
  | @cons gap word words rest hgap hword hend hrest ih =>
    have hsame : word.toList.map blankForComma = word.toList :=
      (List.map_congr_left fun c hc => blankForComma_of_not_isGap (hword.2 c hc)).trans
        (List.map_id' _)
    have hkept : ∀ c ∈ word.toList, Text.isBlank c = false := by
      intro c hc
      have hgap := hword.2 c hc
      rw [isGap, Bool.or_eq_false_iff] at hgap
      exact hgap.1
    have hend' : ∀ c ∈ (rest.map blankForComma).head?, Text.isBlank c = true := by
      rw [List.head?_map]
      simpa [isBlank_blankForComma] using hend
    have hne : word.toList ≠ [] := by simpa using hword.1
    rw [List.map_append, List.map_append, hsame, Text.wordsOf_append_of_blank (hblank hgap),
      Text.wordsOf_append_of_not_blank hne hkept hend', List.map_cons, ih, String.ofList_toList]

/-- A gap may be longer in front. -/
theorem Spaced.cons_gap {words : List String} {text : List Char} (h : Spaced words text) {c : Char}
    (hc : isGap c = true) : Spaced words (c :: text) := by
  cases h with
  | nil hgap => exact .nil (List.forall_mem_cons.mpr ⟨hc, hgap⟩)
  | cons hgap hword hend hrest =>
    exact .cons (List.forall_mem_cons.mpr ⟨hc, hgap⟩) hword hend hrest

/-- A character that is in no gap makes the word behind it longer, or is a word. -/
theorem Spaced.exists_cons {words : List String} {text : List Char} (h : Spaced words text)
    {c : Char} (hc : isGap c = false) : ∃ more, Spaced more (c :: text) := by
  by_cases hend : ∀ d ∈ text.head?, isGap d = true
  · have hword : IsToken (String.ofList [c]) := by
      simpa [IsToken] using hc
    have hmore := @Spaced.cons [] _ _ _ nofun hword hend h
    rw [String.toList_ofList] at hmore
    exact ⟨_, hmore⟩
  · cases h with
    | nil hgap =>
      exact absurd (fun d hd => hgap d (List.mem_of_mem_head? hd)) hend
    | @cons gap word words rest hgap hword hrest h =>
      cases gap with
      | cons g gap =>
        refine absurd (fun d hd => ?_) hend
        cases hd
        exact hgap g List.mem_cons_self
      | nil =>
        have hlonger : IsToken (String.ofList (c :: word.toList)) := by
          refine ⟨by simp, ?_⟩
          rw [String.toList_ofList]
          exact List.forall_mem_cons.mpr ⟨hc, hword.2⟩
        have hmore := @Spaced.cons [] _ _ _ nofun hlonger hrest h
        rw [String.toList_ofList] at hmore
        exact ⟨_, hmore⟩

/-- Every text consists of some words. -/
theorem exists_spaced (text : List Char) : ∃ words, Spaced words text := by
  induction text with
  | nil => exact ⟨[], .nil nofun⟩
  | cons c text ih =>
    obtain ⟨words, hwords⟩ := ih
    by_cases hc : isGap c = true
    · exact ⟨words, hwords.cons_gap hc⟩
    · exact hwords.exists_cons (by simpa using hc)

/-! ## Directives -/

/-- The words of which a text consists are those that are read from it. -/
theorem textWords_eq {words : List String} {text : String} (h : Spaced words text.toList) :
    textWords text = words := by
  rw [← h.wordsOf_eq, textWords, Text.words, String.toList_ofList]
  rfl

theorem spaced_textWords (text : String) : Spaced (textWords text) text.toList := by
  obtain ⟨words, hwords⟩ := exists_spaced text.toList
  rwa [textWords_eq hwords]

theorem ofText_eq (text : String) :
    ofText text = if textWords text = [] then defaults else ofWords (textWords text) := by
  rw [ofText]
  cases textWords text <;> rfl

/-- A directive has a text: no integer in it is too long to be written. -/
def HasText (directive : Value) : Prop :=
  ∃ text, directiveText directive = .ok text

theorem directiveText_eq_error_iff {directive : Value} {e : Failure} :
    directiveText directive = .error e ↔ ¬ HasText directive ∧ e = .integerTooLong := by
  have hwritten : ∀ {e}, directiveText directive = .error e → e = .integerTooLong := by
    intro e he
    rw [directiveText] at he
    cases hitems : directive.sequence? with
    | some items =>
      rw [hitems] at he
      dsimp only at he
      rw [Value.mapM_written] at he
      split at he <;> cases he
      rfl
    | none =>
      rw [hitems] at he
      dsimp only at he
      split at he
      · exact (Value.written_eq_error_iff.mp he).2
      · cases he
  cases htext : directiveText directive with
  | ok text => exact iff_of_false nofun fun h => h.1 ⟨text, htext⟩
  | error e' =>
    have hnot : ¬ HasText directive := by
      rintro ⟨text, h⟩
      rw [htext] at h
      cases h
    rw [and_iff_right hnot, hwritten htext, Except.error.injEq, eq_comm]

/-- The items of a list or tuple must have a text, and so must any other directive that counts as
present. -/
theorem hasText_iff {directive : Value} :
    HasText directive ↔
      (∀ items, directive.sequence? = some items → ∀ item ∈ items, item.hasText = true) ∧
        (directive.sequence? = none → directive.isFilled = true → directive.hasText = true) := by
  rw [HasText, directiveText]
  cases directive.sequence? with
  | some items =>
    simp only [Value.mapM_written, Option.some.injEq, forall_eq', reduceCtorEq, false_implies,
      and_true]
    split
    · next hall => exact iff_of_true ⟨_, rfl⟩ hall
    · next hnot => exact iff_of_false nofun hnot
  | none =>
    simp only [reduceCtorEq, false_implies, implies_true, true_and, forall_const]
    cases directive.isFilled with
    | false => simp
    | true => simp [Value.written_eq_ok_iff]

/-- An integer has a text if it is short enough to be written. -/
theorem hasText_int_iff {n : Int} : HasText (.int n) ↔ n.natAbs < 10 ^ Number.digitLimit := by
  rw [← Number.length_numeral_le_iff, ← Value.hasText_int_iff, hasText_iff]
  by_cases hn : n = 0
  · subst hn
    exact iff_of_true ⟨nofun, fun _ h => nomatch h⟩ (by decide)
  · simp [Value.sequence?, Value.isFilled, hn]

/-- A text writes a list of criteria: it consists of words that stand for them. -/
def Writes (criteria : List SortField) (text : String) : Prop :=
  ∃ words, Written criteria words ∧ Spaced words text.toList

/-- A directive gives a text: it is the text, or a list or tuple of texts that make up the text when
they are joined by spaces. -/
inductive Gives (text : String) : Value → Prop
  | whole : Gives text (.text text)
  | list {parts : List String} (hjoined : " ".intercalate parts = text) :
      Gives text (.list (parts.map .text))
  | tuple {parts : List String} (hjoined : " ".intercalate parts = text) :
      Gives text (.tuple (parts.map .text))

theorem Gives.directiveText_eq {text : String} {directive : Value} (h : Gives text directive) :
    directiveText directive = .ok text := by
  have hparts : ∀ parts : List String, " ".intercalate parts = text →
      (((parts.map Value.text).mapM Value.written).map fun texts => " ".intercalate texts) =
        .ok text := by
    intro parts hjoined
    rw [Value.mapM_written_texts]
    exact congrArg Except.ok hjoined
  cases h with
  | whole =>
    by_cases htext : text = ""
    · subst htext
      rfl
    · have hfilled : (Value.text text).isFilled = true := by simp [Value.isFilled, htext]
      rw [directiveText]
      show (if (Value.text text).isFilled = true then _ else _) = _
      rw [if_pos hfilled]
      rfl
  | @list parts hjoined => exact hparts parts hjoined
  | @tuple parts hjoined => exact hparts parts hjoined

/-- Reading a directive undoes writing a sort order.  A text that writes criteria, given whole or in
parts, is read as these criteria, in order.  And whatever the directive, its text consists of words;
if there are none, the order is the default one, and otherwise the words stand for the criteria that
are read, each word either as a field or as the direction of the field before it.  A directive that
has no text is refused. -/
theorem ofDirective_written (directive : Value) :
    (∀ criteria text, criteria ≠ [] → Writes criteria text → Gives text directive →
      ofDirective directive = .ok criteria) ∧
    (∀ text, directiveText directive = .ok text → ∃ words read, Spaced words text.toList ∧
      ofDirective directive = .ok read ∧
      (words = [] → read = defaults) ∧ (words ≠ [] → Written read words)) ∧
    (¬ HasText directive → ofDirective directive = .error .integerTooLong) := by
  refine ⟨?_, fun text htext => ?_, fun hnot => ?_⟩
  · rintro criteria text hne ⟨words, hwritten, hspaced⟩ hgives
    have hwords : words ≠ [] := by
      rintro rfl
      cases hwritten
      exact hne rfl
    rw [ofDirective, hgives.directiveText_eq, Except.map, ofText_eq, textWords_eq hspaced,
      if_neg hwords, hwritten.ofWords_eq]
  · refine ⟨textWords text, _, spaced_textWords text, by rw [ofDirective, htext]; rfl, ?_, ?_⟩ <;>
      intro hwords
    · rw [ofText_eq, if_pos hwords]
    · rw [ofText_eq, if_neg hwords]
      exact written_ofWords _
  · rw [ofDirective, directiveText_eq_error_iff.mpr ⟨hnot, rfl⟩]
    rfl

/-- Fields may be named like directions, and a directive may come in parts. -/
theorem ofDirective_written_directionNames :
    Writes [⟨"asc", .ascending⟩, ⟨"desc", .descending⟩, ⟨"id", .ascending⟩, ⟨"name", .descending⟩]
        "asc Asc,desc\tdEsC , id name,DESC" ∧
      Gives "asc Asc,desc\tdEsC , id name,DESC"
        (.list [.text "asc Asc,desc\tdEsC", .text ", id", .text "name,DESC"]) ∧
      ofDirective (.list [.text "asc Asc,desc\tdEsC", .text ", id", .text "name,DESC"]) =
        .ok [⟨"asc", .ascending⟩, ⟨"desc", .descending⟩, ⟨"id", .ascending⟩,
          ⟨"name", .descending⟩] := by
  have hwritten : Written
      [⟨"asc", .ascending⟩, ⟨"desc", .descending⟩, ⟨"id", .ascending⟩, ⟨"name", .descending⟩]
      ["asc", "Asc", "desc", "dEsC", "id", "name", "DESC"] := by
    refine .stated (by decide) (.stated (by decide) (.implied ?_ (.stated (by decide) .nil)))
    rintro next ⟨⟩ direction
    cases direction <;> decide
  have hspaced := spaced_textWords "asc Asc,desc\tdEsC , id name,DESC"
  have hwords : textWords "asc Asc,desc\tdEsC , id name,DESC" =
      ["asc", "Asc", "desc", "dEsC", "id", "name", "DESC"] := by
    decide +kernel
  rw [hwords] at hspaced
  have hwrites : Writes
      [⟨"asc", .ascending⟩, ⟨"desc", .descending⟩, ⟨"id", .ascending⟩, ⟨"name", .descending⟩]
      "asc Asc,desc\tdEsC , id name,DESC" := ⟨_, hwritten, hspaced⟩
  have hgives : Gives "asc Asc,desc\tdEsC , id name,DESC"
      (.list (["asc Asc,desc\tdEsC", ", id", "name,DESC"].map .text)) := .list (by decide +kernel)
  exact ⟨hwrites, hgives, (ofDirective_written _).1 _ _ (List.cons_ne_nil _ _) hwrites hgives⟩

end SortField

end SearchFilter
