import SearchFilter.Proofs.Coercion
import SearchFilter.Proofs.Compiler.FreeText
import SearchFilter.Proofs.Lucene.EmptyGroups
import SearchFilter.Proofs.QueryString.Decoded
import SearchFilter.Proofs.Value.Display

/-!
# Terms without words

A blank parameter contributes nothing.  Whether a parameter is blank is decided on its value, while
a free-text term is made from the text of the value, and the two differ for lists: a list with an
item is not blank, whatever the item is.

* `isBlankList_iff` says of which parameters of a query string a term without words is made: of
  lists of blank texts.
* `hasEmptyGroup_freeText_iff` is the result: the free text has an empty group in it only because of
  such a list, or because of the name of a field.
-/

namespace SearchFilter

open Text (words words_intercalate_eq_nil_iff)

/-! ## The text of a value -/

theorem words_ne_nil_of_isIntegerText {s : String} (h : (Value.text s).isIntegerText = true) :
    words s ≠ [] := by
  obtain ⟨word, hword⟩ := Number.exists_words_of_isIntegerLike h
  rw [hword]
  exact List.cons_ne_nil word []

/-- A list of texts is searched for without words if none of the texts has one.  This holds also if
they are read as integers. -/
theorem words_soughtText_list {items : List String} :
    words (Value.list (items.map .text)).soughtText = [] ↔ ∀ item ∈ items, words item = [] := by
  have hself : words (Value.list (items.map .text)).searchText = [] ↔
      ∀ item ∈ items, words item = [] := by
    rw [searchText_texts, words_intercalate_eq_nil_iff]
  rw [Value.soughtText]
  cases hread : (Value.list (items.map .text)).integers with
  | error e => exact hself
  | ok read =>
    rcases integers_ok hread with
      rfl | ⟨texts, htexts, ⟨hall, rfl⟩ | ⟨hall, numbers, hnumbers, rfl⟩⟩
    · exact hself
    · cases htexts
      exact hself
    · cases htexts
      cases items with
      | nil =>
        cases hnumbers
        exact hself
      | cons item rest =>
        have hitem : words item ≠ [] :=
          words_ne_nil_of_isIntegerText (List.all_eq_true.mp hall (.text item) (by simp))
        cases mapM_eq_ok hnumbers with
        | @cons _ number _ others hfirst hrest =>
          refine iff_of_false ?_ fun hnone => hitem (hnone item List.mem_cons_self)
          show words (" ".intercalate (((number :: others).map Value.int).map Value.display)) ≠ []
          intro hnil
          exact words_signedNumeral_ne_nil number
            (words_intercalate_eq_nil_iff.mp hnil _ List.mem_cons_self)

/-- The text of a map has braces around it. -/
theorem words_soughtText_map_ne_nil (entries : List (Value × Value)) :
    words (Value.map entries).soughtText ≠ [] :=
  words_literal_ne_nil (.map entries)

/-! ## Parameters of a query string -/

/-- A list of texts, not empty, none of which has a word. -/
def Value.IsBlankList (value : Value) : Prop :=
  ∃ items : List String, value = .list (items.map .text) ∧ items ≠ [] ∧
    ∀ item ∈ items, words item = []

/-- Of what a query string puts under a name, only lists of blank texts are without words and yet
not blank. -/
theorem isBlankList_iff (param : Param) :
    param.toValue.IsBlankList ↔
      param.toValue.isBlank = false ∧ words param.toValue.soughtText = [] := by
  cases param with
  | text s =>
    refine iff_of_false ?_ ?_
    · rintro ⟨items, hvalue, -⟩
      cases hvalue
    · rintro ⟨hblank, hwords⟩
      exact Text.words_ne_nil hblank hwords
  | list items =>
    have hempty : (Value.list (items.map .text)).isBlank = false ↔ items ≠ [] := by
      cases items <;> simp [Value.isBlank]
    show Value.IsBlankList (.list (items.map .text)) ↔
      (Value.list (items.map .text)).isBlank = false ∧
        words (Value.list (items.map .text)).soughtText = []
    rw [hempty, words_soughtText_list]
    constructor
    · rintro ⟨others, hvalue, hne, hnone⟩
      have hitems : items = others :=
        List.map_injective_iff.mpr (fun _ _ h => Value.text.inj h) (Value.list.inj hvalue)
      rw [hitems]
      exact ⟨hne, hnone⟩
    · rintro ⟨hne, hnone⟩
      exact ⟨items, rfl, hne, hnone⟩
  | map entries =>
    refine iff_of_false ?_ ?_
    · rintro ⟨items, hvalue, -⟩
      cases hvalue
    · rintro ⟨-, hwords⟩
      exact words_soughtText_map_ne_nil _ hwords

namespace Compiler

open Lucene

variable {compiler : Compiler} {params : Params} {source : LocaleSource}

/-- What stands under the key is searched for as free text, on all fields or on one. -/
def IsSearched (compiler : Compiler) (key : String) : Prop :=
  compiler.role key = .ok .freeText ∨ ∃ field, compiler.role key = .ok (.words field)

/-- A term without words comes from a parameter without words that is not blank. -/
theorem exists_wordless_iff :
    (∃ term ∈ compiler.searchTerms params source, term.sought = []) ↔
      ∃ entry ∈ params, compiler.IsSearched entry.1 ∧ entry.2.isBlank = false ∧
        words entry.2.soughtText = [] := by
  induction params generalizing source with
  | nil => simp [searchTerms]
  | cons entry rest ih =>
    obtain ⟨key, value⟩ := entry
    rw [searchTerms, List.exists_mem_cons_iff]
    cases hblank : value.isBlank with
    | true => simp [ih]
    | false =>
      rw [if_neg (by simp)]
      cases hrole : compiler.role key with
      | error e => simp [IsSearched, hrole, ih]
      | ok role =>
        cases role with
        | freeText | words field =>
          rw [List.exists_mem_cons_iff, ih]
          simp [IsSearched, hrole, SearchTerm.sought]
        | directive | groups | unknown | filter parsed => simp [IsSearched, hrole, ih]

/-- The names of fields in free text are those of the terms on fields. -/
theorem exists_field_iff {P : String → Prop} :
    (∃ term ∈ compiler.searchTerms params source, ∃ field ∈ term.field?, P field) ↔
      ∃ field parts, .words field parts ∈ compiler.searchTerms params source ∧ P field := by
  constructor
  · rintro ⟨term, hterm, field, hfield, h⟩
    cases term with
    | text s => cases hfield
    | words name parts =>
      cases hfield
      exact ⟨_, parts, hterm, h⟩
  · rintro ⟨field, parts, hterm, h⟩
    exact ⟨.words field parts, hterm, field, rfl, h⟩

theorem isBlankList_iff_of_mem {query : String} {entry : String × Value}
    (hentry : entry ∈ Params.ofQuery query) :
    entry.2.IsBlankList ↔ entry.2.isBlank = false ∧ words entry.2.soughtText = [] := by
  obtain ⟨⟨key, param⟩, _, rfl⟩ := List.mem_map.mp hentry
  exact isBlankList_iff param

/-- The free text of a compiled query string has an empty group in it exactly when a list of blank
texts is searched for, or when a name of a field has such a group in it or makes one with the
parenthesis in front.  Any other parameter without words contributes no term. -/
theorem hasEmptyGroup_freeText_iff {query : String} {compiled : CompiledQuery}
    (hescape : compiler.escape = true)
    (h : (compiler.compile (Params.ofQuery query) source).1 = .ok compiled) {text : String}
    (htext : compiled.freeText = some (.leaf (.queryText (.text text)))) :
    (HasEmptyGroup text ↔
      (∃ entry ∈ Params.ofQuery query, compiler.IsSearched entry.1 ∧ entry.2.IsBlankList) ∨
        ∃ field parts, .words field parts ∈ compiler.searchTerms (Params.ofQuery query) source ∧
          HasEmptyGroup ("(" ++ field ++ ":")) ∧
    ∀ entry ∈ Params.ofQuery query, words entry.2.soughtText = [] → ¬ entry.2.IsBlankList →
      ∀ source, compiler.searchTerms [entry] source = [] := by
  have hwordless : (∃ term ∈ compiler.searchTerms (Params.ofQuery query) source,
      term.sought = []) ↔
      ∃ entry ∈ Params.ofQuery query, compiler.IsSearched entry.1 ∧ entry.2.IsBlankList := by
    rw [exists_wordless_iff]
    refine exists_congr fun entry => and_congr_right fun hentry => and_congr_right fun _ => ?_
    exact (isBlankList_iff_of_mem hentry).symm
  refine ⟨?_, ?_⟩
  · rw [text_of_freeText_eq_some hescape h htext, hasEmptyGroup_anyOf, ← hwordless,
      ← exists_field_iff, ← exists_or]
    refine exists_congr fun term => ?_
    rw [← and_or_left]
    rfl
  · intro entry hentry hwords hnot source
    have hblank : entry.2.isBlank = true := by
      by_contra hkept
      exact hnot ((isBlankList_iff_of_mem hentry).mpr ⟨by simpa using hkept, hwords⟩)
    rw [searchTerms, if_pos hblank]
    rfl

/-- Parentheses and blanks in values make no empty group. -/
theorem not_hasEmptyGroup_of_parentheses :
    ∃ compiled text,
      (plain.compile (Params.ofQuery "q_cont=()&title_cont=(+)&q_eq=+&s=+") (.constant "en")).1 =
        .ok compiled ∧
      compiled.freeText = some (.leaf (.queryText (.text text))) ∧ ¬ HasEmptyGroup text := by
  have hcompiles : (plain.compile (Params.ofQuery "q_cont=()&title_cont=(+)&q_eq=+&s=+")
      (.constant "en")).1.isOk = true := by
    decide +kernel
  obtain ⟨compiled, h⟩ := exists_eq_ok hcompiles
  have hfree := freeText_eq h
  rw [freeTextClause, if_neg (by decide +kernel)] at hfree
  have hterms : plain.searchTerms (Params.ofQuery "q_cont=()&title_cont=(+)&q_eq=+&s=+")
      (.constant "en") = [.text "()", .words "title" ["(", ")"]] := by
    decide +kernel
  have hnotList : ∀ entry ∈ Params.ofQuery "q_cont=()&title_cont=(+)&q_eq=+&s=+",
      entry.2.sequence?.isNone = true := by
    decide +kernel
  refine ⟨compiled, _, h, hfree, ?_⟩
  rw [(hasEmptyGroup_freeText_iff rfl h hfree).1]
  rintro (⟨entry, hentry, -, items, hvalue, -⟩ | ⟨field, parts, hterm, hempty⟩)
  · have hnone := hnotList entry hentry
    rw [hvalue] at hnone
    cases hnone
  · rw [hterms] at hterm
    have hboth : field = "title" ∧ parts = ["(", ")"] := by simpa using hterm
    rw [hboth.1] at hempty
    exact not_hasEmptyGroup_name (by decide) hempty

/-- A list with one empty text is no blank parameter, and is written as an empty group. -/
theorem hasEmptyGroup_of_blank_list :
    ∃ compiled text,
      (plain.compile (Params.ofQuery "q_cont[]=") (.constant "en")).1 = .ok compiled ∧
      compiled.freeText = some (.leaf (.queryText (.text text))) ∧ text = "()" ∧
      HasEmptyGroup text := by
  have hcompiles : (plain.compile (Params.ofQuery "q_cont[]=") (.constant "en")).1.isOk = true := by
    decide +kernel
  obtain ⟨compiled, h⟩ := exists_eq_ok hcompiles
  have hfree := freeText_eq h
  rw [freeTextClause, if_neg (by decide +kernel)] at hfree
  exact ⟨compiled, _, h, hfree, by decide +kernel, by decide +kernel⟩

end Compiler

end SearchFilter
