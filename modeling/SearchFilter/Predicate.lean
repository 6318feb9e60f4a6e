import SearchFilter.Clause
import SearchFilter.Failure
import SearchFilter.Text.Letter

/-!
# Predicates

A filter key ends with the name of a predicate: `age_gteq` compares the field `age` with *at least*.
A predicate is a name and a comparison; `Comparison.clause` is the clause that a comparison makes of
a field and a value.

Keys are matched against a list of predicates from its front, so a name that is the end of another
name has to come after it: `not_eq` before `eq`, `gteq` before `gt`.  `Predicate.defaults` is so
ordered.
-/

namespace SearchFilter

/-! ## Flags -/

namespace Value

/-- The texts that switch a flag on, apart from letter case and blanks around them. -/
def affirmations : List String :=
  ["1", "t", "true", "y", "yes", "on"]

/-- Whether a value, read as a flag, is on. -/
def isAffirmative (v : Value) : Bool :=
  match v with
  | bool b => b
  | int n => n != 0
  | v => affirmations.contains (Text.lower (Text.strip v.display))

end Value

/-! ## Comparisons -/

/-- What is asked of a field and a value. -/
inductive Comparison where
  | equal
  | different
  | among
  | notAmong
  | atLeast
  | above
  | atMost
  | below
  | containing
  | notContaining
  | beginning
  | ending
  | present
  | absent
deriving DecidableEq, Repr

/-- The clause of a comparison.  Presence and absence take the value as a flag that turns them
round when it is off. -/
def Comparison.clause : Comparison → String → Value → Clause
  | equal, field, value => .term field value
  | different, field, value => .noneOf [.term field value]
  | among, field, value => .among field value
  | notAmong, field, value => .noneOf [.among field value]
  | atLeast, field, value => .bounded field "gte" value
  | above, field, value => .bounded field "gt" value
  | atMost, field, value => .bounded field "lte" value
  | below, field, value => .bounded field "lt" value
  | containing, field, value => .containing field value
  | notContaining, field, value => .noneOf [.containing field value]
  | beginning, field, value => .leaf (.beginning field (.text value.display))
  | ending, field, value => .endingWith field value
  | present, field, value => if value.isAffirmative then .present field else .absent field
  | absent, field, value => if value.isAffirmative then .absent field else .present field

/-! ## Named comparisons -/

/-- A comparison with the name by which keys refer to it. -/
structure Predicate where
  name : String
  comparison : Comparison
deriving DecidableEq, Repr

namespace Predicate

/-- How a key ends that refers to the predicate. -/
def ending (p : Predicate) : String :=
  "_" ++ p.name

/-- The field part of a key that refers to the predicate; it must not be empty. -/
def fieldPart? (p : Predicate) (key : String) : Option String :=
  match Text.stripSuffix? p.ending key with
  | some part => if part.isEmpty then none else some part
  | none => none

/-- The predicates known from the start, longer names before their endings. -/
def defaults : List Predicate :=
  [⟨"not_eq", .different⟩, ⟨"eq", .equal⟩, ⟨"not_in", .notAmong⟩, ⟨"in", .among⟩,
    ⟨"gteq", .atLeast⟩, ⟨"gt", .above⟩, ⟨"lteq", .atMost⟩, ⟨"lt", .below⟩,
    ⟨"not_cont", .notContaining⟩, ⟨"cont", .containing⟩, ⟨"start", .beginning⟩,
    ⟨"end", .ending⟩, ⟨"not_null", .present⟩, ⟨"null", .absent⟩, ⟨"present", .present⟩,
    ⟨"blank", .absent⟩]

/-- The first predicate that a key refers to, with the field part of the key. -/
def find? (registry : List Predicate) (key : String) : Option (String × Predicate) :=
  registry.findSome? fun p => (p.fieldPart? key).map fun part => (part, p)

/-- The first predicate of a name. -/
def named (registry : List Predicate) (name : String) : Except Failure Predicate :=
  match registry.find? (·.name == name) with
  | some p => .ok p
  | none => .error (.unknownPredicate name)

end Predicate

end SearchFilter
