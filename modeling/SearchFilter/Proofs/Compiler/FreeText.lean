import SearchFilter.Proofs.Compiler.Roles
import SearchFilter.Proofs.Lucene.ReadBack
import SearchFilter.Proofs.Text.Blank

/-!
# The free text of a compiled query

The free text of a query is written from the terms of the parameters (`Compiler.searchTerms`), with
operators escaped if the compiler says so.  Escaping concerns the values; the name of a field comes
from the key and is written as it is.

* If the names of fields need no escaping, the terms can be read off the text again
  (`readTerms_freeText`).
* Whatever the values are, whether the text is bracketed depends on the names of fields alone
  (`bracketed_freeText_iff`).
-/

namespace SearchFilter.Compiler

open Lucene

variable {compiler : Compiler} {params : Params} {source : LocaleSource}

theorem text_of_freeText_eq_some {compiled : CompiledQuery} (hescape : compiler.escape = true)
    (h : (compiler.compile params source).1 = .ok compiled) {text : String}
    (htext : compiled.freeText = some (.leaf (.queryText (.text text)))) :
    text = anyOf ((compiler.searchTerms params source).map (SearchTerm.write true)) := by
  rw [freeText_eq h, hescape, freeTextClause] at htext
  split at htext
  · cases htext
  · simpa using htext.symm

/-- The words of a term come from a value, so they have no blank in them. -/
theorem words_of_mem_searchTerms {field : String} {parts : List String}
    (h : .words field parts ∈ compiler.searchTerms params source) :
    ∃ s, parts = Text.words s := by
  induction params generalizing source with
  | nil => exact absurd h List.not_mem_nil
  | cons entry rest ih =>
    obtain ⟨key, value⟩ := entry
    rw [searchTerms] at h
    split at h
    · exact ih h
    · split at h
      · rcases List.mem_cons.mp h with hfirst | hrest
        · cases hfirst
        · exact ih hrest
      · rcases List.mem_cons.mp h with hfirst | hrest
        · cases hfirst
          exact ⟨_, rfl⟩
        · exact ih hrest
      · exact ih h

/-! ## Brackets -/

/-- What came from a value can be left out of a term without moving a reader. -/
theorem alike_hollow (term : SearchTerm) :
    Alike (term.write true).toList (term.hollow.write true).toList := by
  cases term with
  | text s =>
    have hempty : (SearchTerm.write true (.text "")).toList = [] := rfl
    rw [SearchTerm.hollow, toList_write_text, hempty]
    exact alike_escapeChars s.toList
  | words field parts => exact alike_fieldTerm field parts

/-- Terms are bracketed if the names of their fields move no reader. -/
theorem bracketed_of_neutral {terms : List SearchTerm}
    (h : ∀ field parts, .words field parts ∈ terms → Neutral (marks (field.toList ++ [':']))) :
    Bracketed (anyOf (terms.map (SearchTerm.write true))) := by
  refine bracketed_anyOf fun written hwritten => ?_
  obtain ⟨term, hterm, rfl⟩ := List.mem_map.mp hwritten
  cases term with
  | text s => exact toList_write_text s ▸ alike_escapeChars s.toList
  | words field parts => exact inert_fieldTerm (h field parts hterm) parts

/-- Whether free text is bracketed depends on the names of fields and on the numbers of words, but
not on the texts and the words themselves.  It is bracketed whenever each name, with its colon,
moves no reader. -/
theorem bracketed_freeText_iff {compiled : CompiledQuery} (hescape : compiler.escape = true)
    (h : (compiler.compile params source).1 = .ok compiled) {text : String}
    (htext : compiled.freeText = some (.leaf (.queryText (.text text)))) :
    (Bracketed text ↔
      Bracketed (anyOf ((compiler.searchTerms params source).map fun term =>
        term.hollow.write true))) ∧
    ((∀ field parts, .words field parts ∈ compiler.searchTerms params source →
      Neutral (marks (field.toList ++ [':']))) → Bracketed text) := by
  rw [text_of_freeText_eq_some hescape h htext]
  refine ⟨(alike_anyOf ?_).bracketed_iff, bracketed_of_neutral⟩
  rw [List.forall₂_map_left_iff, List.forall₂_map_right_iff, List.forall₂_same]
  exact fun term _ => alike_hollow term

/-- Free text whose values have operators of every kind in them. -/
def hostileParams : Params :=
  [("q_cont", .text "a) OR (b \"\\"), ("title_cont", .text "x&&y \"AND\" (z\\ ||"),
    ("m", .text "or"), ("q_eq", .list [.text "1", .text "2"])]

theorem freeText_hostileParams {compiled : CompiledQuery}
    (h : (plain.compile hostileParams (.constant "en")).1 = .ok compiled) :
    ∃ text, compiled.freeText = some (.leaf (.queryText (.text text))) := by
  have hfree := freeText_eq h
  rw [freeTextClause, if_neg (by decide +kernel)] at hfree
  exact ⟨_, hfree⟩

theorem bracketed_hostileParams :
    ∃ compiled text, (plain.compile hostileParams (.constant "en")).1 = .ok compiled ∧
      compiled.freeText = some (.leaf (.queryText (.text text))) ∧ Bracketed text := by
  have hcompiles : (plain.compile hostileParams (.constant "en")).1.isOk = true := by
    decide +kernel
  obtain ⟨compiled, h⟩ := exists_eq_ok hcompiles
  obtain ⟨text, htext⟩ := freeText_hostileParams h
  have hhollow : Bracketed (anyOf ((plain.searchTerms hostileParams (.constant "en")).map
      fun term => term.hollow.write true)) := by
    decide +kernel
  exact ⟨compiled, text, h, htext, (bracketed_freeText_iff rfl h htext).1.mpr hhollow⟩

/-- A parenthesis in a key is written into the text as it is, and nothing closes it. -/
theorem not_bracketed_of_parenthesis_in_key :
    ∃ compiled text, (plain.compile [("a(_cont", .text "x")] (.constant "en")).1 = .ok compiled ∧
      compiled.freeText = some (.leaf (.queryText (.text text))) ∧
      text = "((a(:*x*) OR (a(:\"x\"))" ∧ ¬ Bracketed text := by
  have hcompiles : (plain.compile [("a(_cont", .text "x")] (.constant "en")).1.isOk = true := by
    decide +kernel
  obtain ⟨compiled, h⟩ := exists_eq_ok hcompiles
  have hfree := freeText_eq h
  rw [freeTextClause, if_neg (by decide +kernel)] at hfree
  exact ⟨compiled, _, h, hfree, by decide +kernel, by decide +kernel⟩

/-! ## Reading the terms back -/

/-- A name that needs no escaping has no live bracket. -/
theorem neutral_of_plainName {cs : List Char} (h : PlainName cs) :
    Neutral (marks (cs ++ [':'])) := by
  refine (inert_of_any_eq_false ?_ ?_).same
  · simp [h.not_mem]
  · rw [List.any_eq_false]
    intro c hc
    rw [Bool.not_eq_true]
    rcases List.mem_append.mp hc with hname | hcolon
    · exact isBracket_of_not_isOperator (h c hname).1
    · cases List.mem_singleton.mp hcolon
      rfl

/-- The terms of parameters can be read off the free text they compile to, in order, if the names of
fields need no escaping and no term on a field is without words.  The text is bracketed. -/
theorem readTerms_freeText {compiled : CompiledQuery} (hescape : compiler.escape = true)
    (hfields : ∀ field parts, .words field parts ∈ compiler.searchTerms params source →
      PlainName field.toList ∧ parts ≠ [])
    (h : (compiler.compile params source).1 = .ok compiled) :
    (compiler.searchTerms params source = [] ∧ compiled.freeText = none) ∨
      ∃ text, compiled.freeText = some (.leaf (.queryText (.text text))) ∧
        readTerms text = some (compiler.searchTerms params source) ∧ Bracketed text := by
  have hreadable : ∀ term ∈ compiler.searchTerms params source, Readable term := by
    intro term hterm
    cases term with
    | text s => trivial
    | words field parts =>
      obtain ⟨hname, hne⟩ := hfields field parts hterm
      obtain ⟨s, rfl⟩ := words_of_mem_searchTerms hterm
      refine ⟨hname, hne, fun word hword hmem => ?_⟩
      exact absurd (Text.not_isBlank_of_mem_words hword hmem) (by decide)
  have hfree := freeText_eq h
  rw [hescape, freeTextClause] at hfree
  by_cases hnil : compiler.searchTerms params source = []
  · exact .inl ⟨hnil, by simpa [hnil] using hfree⟩
  · rw [if_neg (by simpa using hnil)] at hfree
    refine .inr ⟨_, hfree, readTerms_anyOf hnil hreadable, ?_⟩
    exact bracketed_of_neutral fun field parts hterm =>
      neutral_of_plainName (hfields field parts hterm).1

theorem readTerms_hostileParams :
    ∃ compiled text, (plain.compile hostileParams (.constant "en")).1 = .ok compiled ∧
      compiled.freeText = some (.leaf (.queryText (.text text))) ∧
      readTerms text = some [.text "a) OR (b \"\\",
        .words "title" ["x&&y", "\"AND\"", "(z\\", "||"], .text "1 2"] := by
  have hcompiles : (plain.compile hostileParams (.constant "en")).1.isOk = true := by
    decide +kernel
  obtain ⟨compiled, h⟩ := exists_eq_ok hcompiles
  have hterms : plain.searchTerms hostileParams (.constant "en") =
      [.text "a) OR (b \"\\", .words "title" ["x&&y", "\"AND\"", "(z\\", "||"], .text "1 2"] := by
    decide +kernel
  have hfields : ∀ field parts,
      .words field parts ∈ plain.searchTerms hostileParams (.constant "en") →
        PlainName field.toList ∧ parts ≠ [] := by
    intro field parts hmem
    rw [hterms] at hmem
    simp only [List.mem_cons, reduceCtorEq, SearchTerm.words.injEq, List.not_mem_nil, or_false,
      false_or] at hmem
    obtain ⟨rfl, rfl⟩ := hmem
    exact ⟨by decide +kernel, by simp⟩
  rcases readTerms_freeText rfl hfields h with ⟨hnil, _⟩ | ⟨text, htext, hread, _⟩
  · rw [hterms] at hnil
    cases hnil
  · exact ⟨compiled, text, h, htext, hterms ▸ hread⟩

end SearchFilter.Compiler
