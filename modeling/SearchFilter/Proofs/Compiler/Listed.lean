import SearchFilter.Proofs.Compiler.Apart
import SearchFilter.Proofs.Compiler.EmptyTerms
import SearchFilter.Proofs.Lucene.Stars

/-!
# Lists of texts as free text

A list under a key of free text is searched for by the text of its items, joined by spaces.  Before
that its integers are read, so a list of texts that all look like integers is searched for by the
numerals of these integers.

* `Compiler.SeeksWords` says of a parameter that it compiles to one free-text term, made of given
  words; the words are read off the query text again.
* `seeksWords_listed` is the result: a list seeks the words of its texts, just as the joined text
  does, unless all of them are integers.
-/

namespace SearchFilter

open Lucene (Mark marks anyOf fieldTerm starredWords between? textOf)

/-! ## Reading the words of a term -/

/-- The words of a text of one term, which stand between parentheses; escapes are taken off if there
are any. -/
def Lucene.enclosedWords (escape : Bool) (text : String) : Option (List String) :=
  (between? '(' ')' (if escape then marks text.toList else text.toList.map .live)).map
    fun ms => Text.words (textOf ms)

theorem enclosedWords_anyOf (escape : Bool) (s : String) :
    Lucene.enclosedWords escape (anyOf [(SearchTerm.text s).write escape]) =
      some (Text.words s) := by
  rw [Lucene.enclosedWords, Lucene.toList_anyOf, List.map_singleton, List.intercalate_singleton]
  cases escape with
  | true =>
    rw [if_pos rfl, Lucene.toList_write_text, Lucene.marks_enclosed (Lucene.complete_escapeChars _),
      Lucene.between?_enclosed, Option.map_some, Lucene.textOf_escapeChars, String.ofList_toList]
  | false =>
    have hlive : (Lucene.enclosed s.toList).map Mark.live =
        .live '(' :: (s.toList.map .live ++ [.live ')']) := by
      simp [Lucene.enclosed]
    have htext : textOf (s.toList.map .live) = s := by
      simp [textOf, Function.comp_def, Mark.char]
    rw [if_neg (by decide)]
    show (between? '(' ')' ((Lucene.enclosed s.toList).map Mark.live)).map _ = _
    rw [hlive, Lucene.between?_enclosed, Option.map_some, htext]

namespace Compiler

/-- A query text is one term, made of the given words: free text with these words, or a term that
asks a field for each of them. -/
def IsTermOf (compiler : Compiler) (source : LocaleSource) (words : List String) (text : String) :
    KeyRole → Prop
  | .freeText => Lucene.enclosedWords compiler.escape text = some words
  | .words field =>
    text = anyOf [fieldTerm (compiler.localize field source).1 words] ∧
      starredWords (compiler.localize field source).1 text = some words
  | _ => False

/-- A parameter compiles to free text of one term, made of the given words, and to nothing else. -/
def SeeksWords (compiler : Compiler) (source : LocaleSource) (key : String) (value : Value)
    (words : List String) : Prop :=
  ∃ compiled text role, (compiler.compile [(key, value)] source).1 = .ok compiled ∧
    compiled.freeText = some (.leaf (.queryText (.text text))) ∧ compiled.filters = [] ∧
    compiler.role key = .ok role ∧ compiler.IsTermOf source words text role

variable {compiler : Compiler} {key : String} {source : LocaleSource}

/-! ## Words sought -/

section Sought

variable (hkey : compiler.IsSearched key)

include hkey

theorem IsSearched.not_directive : ¬ (key = sortKey ∨ key = modeKey) := by
  rcases hkey with hrole | ⟨field, hrole⟩ <;> exact not_directive_of_role hrole (by simp)

/-- A value contributes what the text does that is searched for. -/
theorem contribution_eq_searchText {value read : Value} (hblank : value.isBlank = false)
    (hread : value.integers = .ok read) (hwords : Text.words read.searchText ≠ []) :
    compiler.contribution compiler.declared key value =
      compiler.contribution compiler.declared key (.text read.searchText) := by
  have hkept := isBlank_text_eq_false_iff.mpr hwords
  have htext : (Value.text read.searchText).integers = .ok (.text read.searchText) := rfl
  have hself : (Value.text read.searchText).searchText = read.searchText := rfl
  rw [contribution_eq hkey.not_directive, contribution_eq hkey.not_directive, hblank, hkept, hread,
    htext]
  rcases hkey with hrole | ⟨field, hrole⟩ <;> rw [hrole] <;>
    simp only [Except.bind, part, hself]

variable {schema : Option Schema} (hschema : compiler.model.schema = .ok schema)

include hschema

/-- A text with words is searched for by them. -/
theorem seeksWords_text {s : String} (hwords : Text.words s ≠ []) :
    compiler.SeeksWords source key (.text s) (Text.words s) := by
  have hread : (Value.text s).integers = .ok (.text s) := rfl
  have hcompile : (compiler.compile [(key, .text s)] source).1 = _ :=
    compile_singleton hschema hkey.not_directive
  rw [contribution_eq hkey.not_directive, isBlank_text_eq_false_iff.mpr hwords, hread] at hcompile
  rcases hkey with hrole | ⟨field, hrole⟩
  · rw [hrole] at hcompile
    exact ⟨_, _, _, hcompile, rfl, rfl, hrole, enclosedWords_anyOf compiler.escape s⟩
  · rw [hrole] at hcompile
    exact ⟨_, _, _, hcompile, rfl, rfl, hrole, rfl, Lucene.starredWords_anyOf hwords⟩

/-- A value is searched for by the words of its text, in every place as that text is. -/
theorem seeksWords_searchText (source : LocaleSource) {value read : Value}
    (hblank : value.isBlank = false) (hread : value.integers = .ok read)
    (hwords : Text.words read.searchText ≠ []) :
    compiler.SeeksWords source key value (Text.words read.searchText) ∧
      ∀ before after, compiler.compile (before ++ (key, value) :: after) source =
        compiler.compile (before ++ (key, .text read.searchText) :: after) source := by
  have hreplace : ∀ before after, compiler.compile (before ++ (key, value) :: after) source =
      compiler.compile (before ++ (key, .text read.searchText) :: after) source :=
    compile_replace hkey.not_directive (contribution_eq_searchText hkey hblank hread hwords)
  refine ⟨?_, hreplace⟩
  obtain ⟨compiled, text, role, hcompiled, hrest⟩ := seeksWords_text hkey hschema hwords
  exact ⟨compiled, text, role, (congrArg Prod.fst (hreplace [] [])).trans hcompiled, hrest⟩

end Sought

/-! ## Lists of texts -/

/-- The words of numerals are the numerals. -/
theorem words_numerals (numbers : List Int) :
    (numbers.map Number.signedNumeral).flatMap Text.words =
      numbers.map Number.signedNumeral := by
  rw [List.flatMap_map, List.map_eq_flatMap]
  simp only [words_signedNumeral]

/-- Numerals are the words of integer texts exactly when each is the word of its text. -/
theorem numerals_eq_words_iff {strings : List String} {numbers : List Int}
    (hall : strings.all Number.isIntegerLike = true) (hlength : strings.length = numbers.length) :
    numbers.map Number.signedNumeral = strings.flatMap Text.words ↔
      List.Forall₂ (fun s n => Text.words s = [Number.signedNumeral n]) strings numbers := by
  induction strings generalizing numbers with
  | nil =>
    cases numbers with
    | nil => simp
    | cons n rest => cases hlength
  | cons s strings ih =>
    cases numbers with
    | nil => cases hlength
    | cons n numbers =>
      rw [List.all_cons, Bool.and_eq_true] at hall
      obtain ⟨word, hword⟩ := Number.exists_words_of_isIntegerLike hall.1
      rw [List.map_cons, List.flatMap_cons, hword, List.singleton_append, List.cons.injEq,
        ih hall.2 (Nat.succ.inj hlength), List.forall₂_cons, hword, List.singleton_inj, eq_comm]

/-- A list of texts with words, under a key of free text.

If not all of the texts look like integers, the list is searched for by the words of the texts, one
after the other, in every place as the joined text is.  If all of them do, it is searched for by the
numerals of the integers that are read; these are the words of the texts exactly when each text is
the numeral of its integer, apart from blanks around it. -/
theorem seeksWords_listed (hkey : compiler.IsSearched key) {schema : Option Schema}
    (hschema : compiler.model.schema = .ok schema) {strings : List String} (hne : strings ≠ [])
    (hwords : ∀ s ∈ strings, Text.words s ≠ []) (source : LocaleSource) :
    compiler.SeeksWords source key (.text (" ".intercalate strings))
        (strings.flatMap Text.words) ∧
      (strings.all Number.isIntegerLike = false →
        compiler.SeeksWords source key (.list (strings.map .text))
            (strings.flatMap Text.words) ∧
          ∀ before after,
            compiler.compile (before ++ (key, .list (strings.map .text)) :: after) source =
              compiler.compile (before ++ (key, .text (" ".intercalate strings)) :: after)
                source) ∧
      (strings.all Number.isIntegerLike = true →
        ∀ numbers, strings.mapM Number.readInteger = .ok numbers →
          compiler.SeeksWords source key (.list (strings.map .text))
              (numbers.map Number.signedNumeral) ∧
            (numbers.map Number.signedNumeral = strings.flatMap Text.words ↔
              List.Forall₂ (fun s n => Text.words s = [Number.signedNumeral n])
                strings numbers)) := by
  obtain ⟨first, hfirst⟩ := List.exists_mem_of_ne_nil strings hne
  have hblank : (Value.list (strings.map .text)).isBlank = false := by
    simpa [Value.isBlank] using hne
  have hjoined : Text.words (" ".intercalate strings) ≠ [] := fun hnone =>
    hwords first hfirst (Text.words_intercalate_eq_nil_iff.mp hnone first hfirst)
  refine ⟨?_, fun hmixed => ?_, fun hall numbers hread => ⟨?_, ?_⟩⟩
  · rw [← Text.words_intercalate]
    exact seeksWords_text hkey hschema hjoined
  · have hsought := seeksWords_searchText hkey hschema source hblank (integers_texts hne hmixed)
      (by rwa [searchText_texts])
    rw [searchText_texts, Text.words_intercalate] at hsought
    exact hsought
  · have hnumbers : numbers ≠ [] := by
      rintro rfl
      exact hne (List.eq_nil_of_length_eq_zero (mapM_eq_ok hread).length_eq)
    have hnumerals : Text.words (" ".intercalate (numbers.map Number.signedNumeral)) =
        numbers.map Number.signedNumeral := by
      rw [Text.words_intercalate, words_numerals]
    have hsought := (seeksWords_searchText hkey hschema source hblank
      (integers_numerals hne hall hread)
      (by rw [searchText_numbers, hnumerals]; simpa using hnumbers)).1
    rw [searchText_numbers, hnumerals] at hsought
    exact hsought
  · exact numerals_eq_words_iff hall (mapM_eq_ok hread).length_eq

/-- A text that is no integer keeps the other one as it is, and a list of numerals is one too. -/
theorem seeksWords_listed_codes :
    plain.SeeksWords (.constant "en") "q_cont" (.list [.text "007", .text "a (b)"])
        ["007", "a", "(b)"] ∧
      plain.SeeksWords (.constant "en") "name_cont" (.list [.text "12", .text " -3"])
        ["12", "-3"] := by
  have htext : plain.IsSearched "q_cont" := .inl rfl
  have hfield : plain.IsSearched "name_cont" := .inr ⟨"name", rfl⟩
  have hread : ["12", " -3"].mapM Number.readInteger = .ok [12, -3] := rfl
  have hmixed := (seeksWords_listed htext rfl (List.cons_ne_nil "007" ["a (b)"]) (by decide)
    (.constant "en")).2.1 (by decide)
  have hnumerals := (seeksWords_listed hfield rfl (List.cons_ne_nil "12" [" -3"]) (by decide)
    (.constant "en")).2.2 (by decide) [12, -3] hread
  exact ⟨hmixed.1, hnumerals.1⟩

/-- Zeros in front are lost if all texts of a list look like integers. -/
theorem not_seeksWords_leading_zeros :
    (∃ compiled, (plain.compile [("q_cont", .list [.text "007", .text "8"])] (.constant "en")).1 =
        .ok compiled ∧
      compiled.freeText = some (.leaf (.queryText (.text "(7 8)")))) ∧
    ¬ plain.SeeksWords (.constant "en") "q_cont" (.list [.text "007", .text "8"])
      (["007", "8"].flatMap Text.words) := by
  have hcompiles : (plain.compile [("q_cont", .list [.text "007", .text "8"])]
      (.constant "en")).1.isOk = true := by
    decide +kernel
  have hterms : plain.searchTerms [("q_cont", .list [.text "007", .text "8"])] (.constant "en") =
      [.text "7 8"] := by
    decide +kernel
  obtain ⟨compiled, h⟩ := exists_eq_ok hcompiles
  have hfree := freeText_eq h
  rw [hterms] at hfree
  refine ⟨⟨compiled, h, hfree⟩, ?_⟩
  rintro ⟨other, text, role, hother, htext, -, hrole, hterm⟩
  have hfreeText : plain.role "q_cont" = .ok .freeText := rfl
  rw [hfreeText] at hrole
  cases hrole
  rw [text_of_freeText_eq_some rfl hother htext, hterms] at hterm
  exact absurd ((enclosedWords_anyOf true "7 8").symm.trans hterm) (by decide)

end Compiler

end SearchFilter
