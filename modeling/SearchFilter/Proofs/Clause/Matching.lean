import Mathlib.Data.List.Infix
import SearchFilter.Predicate
import SearchFilter.Proofs.Clause.Wildcards

/-!
# Matching wildcard patterns

`Matches` is what a search server does with a pattern: `*` stands for any stretch of characters, `?`
for any one character, and a character behind a backslash for itself.

* The marks of an escaped text match that text and nothing else (`accepts_literal`).
* So `*word*` matches the texts that contain the word (`matches_contained`), and `*word` those that
  end with it (`matches_ending`).
* The clause that asks for the words of a value asks for one such pattern a word
  (`wildcards_containing`).

The main result is `matches_wildcards`: an operator within a value is never an operator of the
pattern that is made from it.
-/

namespace SearchFilter.Clause

open Lucene (Mark marks)

/-! ## Patterns -/

/-- Whether a text can be cut up as the marks of a pattern say: a live star takes any stretch, a
live question mark any one character, and every other mark its own character. -/
def accepts : List Mark → List Char → Bool
  | [], text => text.isEmpty
  | mark :: rest, text =>
    if mark = .live '*' then text.tails.any (accepts rest)
    else text.head?.any (fun c => mark = .live '?' || c = mark.char) && accepts rest text.tail

/-- A text matches a pattern. -/
def Matches (pattern text : String) : Prop :=
  accepts (marks pattern.toList) text.toList = true

instance (pattern text : String) : Decidable (Matches pattern text) :=
  inferInstanceAs (Decidable (_ = true))

@[simp]
theorem accepts_nil {text : List Char} : accepts [] text = true ↔ text = [] :=
  List.isEmpty_iff

/-- A star leaves any end of the text to the rest of the pattern. -/
theorem accepts_star {rest : List Mark} {text : List Char} :
    accepts (.live '*' :: rest) text = true ↔
      ∃ left, left <:+ text ∧ accepts rest left = true := by
  rw [accepts, if_pos rfl, List.any_eq_true]
  simp only [List.mem_tails]

/-- The marks of an escaped text take this text and nothing else. -/
theorem accepts_literal {cs : List Char} {rest : List Mark} {text : List Char} :
    accepts (cs.map literalMark ++ rest) text = true ↔
      ∃ left, text = cs ++ left ∧ accepts rest left = true := by
  induction cs generalizing text with
  | nil => simp
  | cons c cs ih =>
    have hstar : literalMark c ≠ .live '*' := (live_ne_literalMark (by decide) c).symm
    have hany : literalMark c ≠ .live '?' := (live_ne_literalMark (by decide) c).symm
    rw [List.map_cons, List.cons_append, accepts, if_neg hstar]
    cases text with
    | nil => simp
    | cons d text => simp [hany, char_literalMark, ih, and_assoc]

/-- A word between two stars matches the texts that contain it. -/
theorem matches_contained {word text : String} :
    Matches ("*" ++ literalPattern word ++ "*") text ↔ word.toList <:+: text.toList := by
  have hend : ∀ left, accepts (marks "*".toList) left = true := fun left =>
    accepts_star.mpr ⟨[], List.nil_suffix, rfl⟩
  rw [Matches, marks_starred, accepts_star, List.infix_iff_prefix_suffix]
  simp only [accepts_literal, hend, and_true]
  constructor
  · rintro ⟨left, hleft, after, rfl⟩
    exact ⟨_, List.prefix_append _ _, hleft⟩
  · rintro ⟨left, ⟨after, rfl⟩, hleft⟩
    exact ⟨_, hleft, after, rfl⟩

/-- A word behind a star matches the texts that end with it. -/
theorem matches_ending {word text : String} :
    Matches ("*" ++ literalPattern word) text ↔ word.toList <:+ text.toList := by
  have hmarks := marks_starred word ""
  rw [String.append_empty] at hmarks
  rw [Matches, hmarks, accepts_star]
  constructor
  · rintro ⟨left, hleft, hword⟩
    obtain ⟨after, rfl, hafter⟩ := accepts_literal.mp hword
    rw [accepts_nil.mp hafter, List.append_nil] at hleft
    exact hleft
  · intro hsuffix
    exact ⟨_, hsuffix, accepts_literal.mpr ⟨[], (List.append_nil _).symm, rfl⟩⟩

/-! ## Patterns in clauses -/

mutual

/-- The questions at the leaves of a clause. -/
def questions : Clause → List Leaf
  | leaf question => [question]
  | everything => []
  | allOf clauses => questionsOfAll clauses
  | anyOf clauses => questionsOfAll clauses
  | noneOf clauses => questionsOfAll clauses
  | ranked ranking filters => questionsOfAll ranking ++ questionsOfAll filters

/-- The questions of several clauses. -/
def questionsOfAll : List Clause → List Leaf
  | [] => []
  | clause :: clauses => questions clause ++ questionsOfAll clauses

end

/-- The field and the pattern of a question about a pattern. -/
def patternAsked? : Leaf → Option (String × Value)
  | .wildcard field pattern => some (field, pattern)
  | _ => none

/-- The patterns that are asked for anywhere in a clause, each with its field. -/
def wildcards (clause : Clause) : List (String × Value) :=
  clause.questions.filterMap patternAsked?

theorem questionsOfAll_map_leaf {α : Type} (items : List α) (question : α → Leaf) :
    questionsOfAll (items.map fun item => leaf (question item)) = items.map question := by
  induction items with
  | nil => rfl
  | cons item rest ih =>
    rw [List.map_cons, questionsOfAll, questions, ih]
    rfl

/-- The clause for the words of a value asks for one pattern a word, all of the same field. -/
theorem wildcards_containing (field : String) (value : Value) :
    (containing field value).wildcards =
      (Text.words value.display).map fun word =>
        (field, .text ("*" ++ literalPattern word ++ "*")) := by
  simp [wildcards, containing, questions, questionsOfAll, questionsOfAll_map_leaf,
    List.filterMap_append, List.filterMap_map, Function.comp_def, patternAsked?]

/-- Values are searched for as they are written.  A text matches all patterns of the clause that
asks a field for the words of a value exactly when every one of the words occurs in it, and it
matches the pattern of the predicate `end` exactly when it ends with the text of the value; whether
there are operators or backslashes in the value makes no difference. -/
theorem matches_wildcards (field : String) (value : Value) :
    (∃ patterns : List String,
      (containing field value).wildcards = patterns.map (fun pattern => (field, .text pattern)) ∧
      ∀ text : String, (∀ pattern ∈ patterns, Matches pattern text) ↔
        ∀ word ∈ Text.words value.display, word.toList <:+: text.toList) ∧
    ∃ (ending : Predicate) (pattern : String),
      Predicate.named Predicate.defaults "end" = .ok ending ∧
      ending.comparison.clause field value = leaf (.wildcard field (.text pattern)) ∧
      ∀ text : String, Matches pattern text ↔ value.display.toList <:+ text.toList := by
  constructor
  · refine ⟨(Text.words value.display).map fun word => "*" ++ literalPattern word ++ "*", ?_, ?_⟩
    · rw [wildcards_containing, List.map_map]
      rfl
    · intro text
      rw [List.forall_mem_map]
      simp only [matches_contained]
  · exact ⟨⟨"end", .ending⟩, _, rfl, rfl, fun text => matches_ending⟩

example : ¬ Matches ("*" ++ literalPattern "5*" ++ "*") "50" := by decide

end SearchFilter.Clause
