import SearchFilter.Compiler
import SearchFilter.Proofs.Text.Split

/-!
# Writing keys

Keys that are put together from names and a predicate are read as what they were made of, if nothing
in the names can be taken for a predicate or a separator.

* A predicate is found under its name if the key ends with the name of no predicate before it
  (`Predicate.find?_append`).  Among the default predicates the only name that ends in another one
  is that of its negation (`Predicate.pairwise_defaults`), so each is found unless the names make it
  a negation (`Predicate.find?_default`).
* `FilterKey.AreNames` are two names that can be joined, and `FilterKey.parse_cont` and
  `FilterKey.parse_or_cont` the keys for one and for both of them.
* `FilterKey.IsName` is a name that can be asked for one of several values, with the key
  `FilterKey.parse_membership`.
* `FilterKey.IsKeyFor` is a key for any number of names and any default predicate, and
  `FilterKey.IsReadOf` says what can be read of a key at all.

The main result is `FilterKey.parse_joined`: reading undoes writing, and what is read of any other
key is sound as well.
-/

namespace SearchFilter

namespace Predicate

/-! ## The predicate -/

/-- The predicate that asks for words. -/
def containing : Predicate :=
  ⟨containsName, .containing⟩

theorem fieldPart?_append (p : Predicate) {part : String} (hpart : part ≠ "") :
    p.fieldPart? (part ++ p.ending) = some part := by
  have hstrip : Text.stripSuffix? p.ending (part ++ p.ending) = some part := by
    rw [Text.stripSuffix?, String.toList_append,
      if_pos (List.isSuffixOf_iff_suffix.mpr (List.suffix_append _ _)), List.length_append,
      Nat.add_sub_cancel, List.take_left, String.ofList_toList]
  rw [fieldPart?, hstrip]
  simp [hpart]

theorem fieldPart?_eq_none {p : Predicate} {key : String}
    (h : ¬ p.ending.toList <:+ key.toList) : p.fieldPart? key = none := by
  rw [fieldPart?, Text.stripSuffix?, if_neg fun hs => h (List.isSuffixOf_iff_suffix.mp hs)]

/-- The predicate that is found is one of the registry, and the key ends with its name. -/
theorem of_find?_eq_some {registry : List Predicate} {key part : String} {p : Predicate}
    (h : find? registry key = some (part, p)) :
    p ∈ registry ∧ p.ending.toList <:+ key.toList := by
  obtain ⟨other, hother, hfound⟩ := List.exists_of_findSome?_eq_some h
  obtain ⟨_, hpart, ⟨⟩⟩ := Option.map_eq_some_iff.mp hfound
  refine ⟨hother, ?_⟩
  by_contra hsuffix
  rw [fieldPart?_eq_none hsuffix] at hpart
  cases hpart

/-- The first predicate with whose name a key ends is the one that is found. -/
theorem find?_append {before after : List Predicate} {p : Predicate} {part : String}
    (hpart : part ≠ "")
    (hbefore : ∀ other ∈ before, ¬ other.ending.toList <:+ part.toList ++ p.ending.toList) :
    find? (before ++ p :: after) (part ++ p.ending) = some (part, p) := by
  refine List.findSome?_eq_some_iff.mpr ⟨before, p, after, rfl, ?_, fun other hother => ?_⟩
  · rw [fieldPart?_append p hpart]
    rfl
  · rw [fieldPart?_eq_none (by rw [String.toList_append]; exact hbefore other hother)]
    rfl

/-- The names of the predicates that have a negation, whose name is `not_` and the name. -/
def negatedNames : List String :=
  ["eq", "in", "cont", "null"]

/-- No default predicate ends a name that comes after its own, and only a negation comes before a
name that it ends with. -/
theorem pairwise_defaults :
    defaults.Pairwise fun earlier later =>
      ¬ earlier.ending.toList <:+ later.ending.toList ∧
        (later.ending.toList <:+ earlier.ending.toList →
          earlier.ending.toList = "_not".toList ++ later.ending.toList ∧
            later.name ∈ negatedNames) := by
  decide +kernel

/-- A default predicate is found behind any field part, unless the field part makes a negation of
it. -/
theorem find?_default {p : Predicate} (hp : p ∈ defaults) {part : String} (hpart : part ≠ "")
    (hnot : p.name ∈ negatedNames → ¬ "_not".toList <:+ part.toList) :
    find? defaults (part ++ p.ending) = some (part, p) := by
  obtain ⟨before, after, hdefaults⟩ := List.append_of_mem hp
  have hpairwise := pairwise_defaults
  rw [hdefaults, List.pairwise_append] at hpairwise
  rw [hdefaults]
  apply find?_append hpart
  intro other hother hsuffix
  obtain ⟨hends, hnegates⟩ := hpairwise.2.2 other hother p List.mem_cons_self
  rcases List.suffix_or_suffix_of_suffix hsuffix (List.suffix_append _ _) with hwithin | hlonger
  · exact hends hwithin
  · obtain ⟨hending, hname⟩ := hnegates hlonger
    rw [hending, List.suffix_append_self_iff] at hsuffix
    exact hnot hname hsuffix

/-- Of the predicates before it, only a negation can be taken for `cont`. -/
theorem find?_cont {part : String} (hpart : part ≠ "")
    (hnot : ¬ "_not".toList <:+ part.toList) :
    find? defaults (part ++ "_cont") = some (part, containing) :=
  find?_default (p := containing) (by decide) hpart fun _ => hnot

/-- The predicate that asks for one of several values or, negated, for none of them. -/
def membership (negated : Bool) : Predicate :=
  if negated then ⟨"not_in", .notAmong⟩ else ⟨"in", .among⟩

/-- Of the predicates before them, only the negation can be taken for `in`, and none for
`not_in`. -/
theorem find?_membership {negated : Bool} {part : String} (hpart : part ≠ "")
    (hnot : negated = false → ¬ "_not".toList <:+ part.toList) :
    find? defaults (part ++ (membership negated).ending) = some (part, membership negated) := by
  apply find?_default (by cases negated <;> decide) hpart
  intro hname
  cases negated with
  | false => exact hnot rfl
  | true => exact absurd hname (by decide)

end Predicate

namespace FilterKey

/-- A key with a predicate and with fields is read as these. -/
theorem parse_of_find? {registry : List Predicate} {separator key part : String} {p : Predicate}
    {fields : List String} (hfind : Predicate.find? registry key = some (part, p))
    (hsplit : splitFields separator part = .ok fields) (hne : fields ≠ []) :
    parse registry separator key = .ok (some ⟨fields, p⟩) := by
  rw [parse, hfind]
  simp only [hsplit]

/-- A key that is read names a field. -/
theorem fields_ne_nil {registry : List Predicate} {separator key : String} {parsed : FilterKey}
    (h : parse registry separator key = .ok (some parsed)) : parsed.fields ≠ [] := by
  rw [parse] at h
  split at h
  · cases h
  · split at h
    · cases h
    · cases h
    · next hne _ =>
      cases h
      exact hne

/-! ## One name and two names -/

theorem splitFields_singleton {name : String} (hne : name ≠ "")
    (h : ¬ defaultSeparator.toList <:+: name.toList) :
    splitFields defaultSeparator name = .ok [name] := by
  rw [splitFields, if_neg (by decide), Text.splitOn_of_not_infix h]
  simp [hne]

/-- Two names of fields that can be joined: they are not empty, they do not contain the separator,
which does not occur across the end of the first one either, and neither the first one nor both
together end with a negation. -/
structure AreNames (first second : String) : Prop where
  first_ne : first ≠ ""
  second_ne : second ≠ ""
  first_not_infix : ¬ defaultSeparator.toList <:+: first.toList ++ defaultSeparator.toList.dropLast
  second_not_infix : ¬ defaultSeparator.toList <:+: second.toList
  first_not_suffix : ¬ "_not".toList <:+ first.toList
  joined_not_suffix : ¬ "_not".toList <:+ (first ++ defaultSeparator ++ second).toList

instance (first second : String) : Decidable (AreNames first second) :=
  decidable_of_iff
    (first ≠ "" ∧ second ≠ "" ∧
      ¬ defaultSeparator.toList <:+: first.toList ++ defaultSeparator.toList.dropLast ∧
      ¬ defaultSeparator.toList <:+: second.toList ∧ ¬ "_not".toList <:+ first.toList ∧
      ¬ "_not".toList <:+ (first ++ defaultSeparator ++ second).toList)
    ⟨fun ⟨h₁, h₂, h₃, h₄, h₅, h₆⟩ => ⟨h₁, h₂, h₃, h₄, h₅, h₆⟩,
      fun h => ⟨h.1, h.2, h.3, h.4, h.5, h.6⟩⟩

section AreNames

variable {first second : String} (h : AreNames first second)

include h

/-- The key that asks one field for words. -/
theorem parse_cont :
    parse Predicate.defaults defaultSeparator (first ++ "_cont") =
      .ok (some ⟨[first], .containing⟩) := by
  have hone : ¬ defaultSeparator.toList <:+: first.toList := fun hwithin =>
    h.first_not_infix (hwithin.trans (List.prefix_append _ _).isInfix)
  exact parse_of_find? (Predicate.find?_cont h.first_ne h.first_not_suffix)
    (splitFields_singleton h.first_ne hone) (List.cons_ne_nil _ _)

/-- The key that asks one of two fields for words. -/
theorem parse_or_cont :
    parse Predicate.defaults defaultSeparator (first ++ defaultSeparator ++ second ++ "_cont") =
      .ok (some ⟨[first, second], .containing⟩) := by
  have hne : first ++ defaultSeparator ++ second ≠ "" := by simp [h.first_ne]
  have hsplit : splitFields defaultSeparator (first ++ defaultSeparator ++ second) =
      .ok [first, second] := by
    rw [splitFields, if_neg (by decide), Text.splitOn_append (by decide) h.first_not_infix,
      Text.splitOn_of_not_infix h.second_not_infix]
    simp [h.first_ne, h.second_ne]
  exact parse_of_find? (Predicate.find?_cont hne h.joined_not_suffix) hsplit
    (List.cons_ne_nil _ _)

end AreNames

/-! ## One of several values -/

/-- A name of one field that can be asked for one of several values or, negated, for none of them:
it is not empty, does not contain the separator, and does not turn the predicate into its negation.
-/
structure IsName (negated : Bool) (name : String) : Prop where
  ne : name ≠ ""
  not_infix : ¬ defaultSeparator.toList <:+: name.toList
  not_suffix : negated = false → ¬ "_not".toList <:+ name.toList

instance (negated : Bool) (name : String) : Decidable (IsName negated name) :=
  decidable_of_iff
    (name ≠ "" ∧ ¬ defaultSeparator.toList <:+: name.toList ∧
      (negated = false → ¬ "_not".toList <:+ name.toList))
    ⟨fun ⟨hne, hinfix, hsuffix⟩ => ⟨hne, hinfix, hsuffix⟩, fun h => ⟨h.1, h.2, h.3⟩⟩

/-- The key that asks one field for one of several values. -/
theorem parse_membership {negated : Bool} {name : String} (h : IsName negated name) :
    parse Predicate.defaults defaultSeparator (name ++ (Predicate.membership negated).ending) =
      .ok (some ⟨[name], Predicate.membership negated⟩) :=
  parse_of_find? (Predicate.find?_membership h.ne h.not_suffix)
    (splitFields_singleton h.ne h.not_infix) (List.cons_ne_nil _ _)

/-! ## Any number of names -/

/-- Cutting undoes joining names, if none of them has `or` for a word between underscores. -/
theorem splitFields_intercalate {names : List String} (hnames : names ≠ [])
    (hne : ∀ name ∈ names, name ≠ "") (hor : ∀ name ∈ names, "or" ∉ Text.splitOn "_" name) :
    splitFields defaultSeparator (defaultSeparator.intercalate names) = .ok names := by
  have hpieces : ∀ name ∈ names,
      ¬ defaultSeparator.toList <:+: name.toList ++ defaultSeparator.toList.dropLast := by
    intro name hname
    have hseparator : defaultSeparator.toList = '_' :: ("or".toList ++ ['_']) := by decide
    have hstart : defaultSeparator.toList.dropLast = '_' :: "or".toList := by decide
    have hword : "or".toList ∉ Text.splitSkipping ['_'] 0 name.toList := fun hmem =>
      hor name hname (List.mem_map.mpr ⟨_, hmem, rfl⟩)
    rw [hstart, hseparator]
    exact Text.not_infix_of_not_mem_pieces (by decide) hword
  rw [splitFields, if_neg (by decide), Text.splitOn_intercalate (by decide) hnames hpieces]
  simpa using hne

/-- A key that is put together from names of fields and one of the predicates known from the start.
No name has `or` for a word between its underscores, and the names do not make the predicate its
negation. -/
structure IsKeyFor (names : List String) (p : Predicate) (key : String) : Prop where
  predicate_mem : p ∈ Predicate.defaults
  names_ne : names ≠ []
  name_ne : ∀ name ∈ names, name ≠ ""
  or_not_mem : ∀ name ∈ names, "or" ∉ Text.splitOn "_" name
  not_suffix : p.name ∈ Predicate.negatedNames →
    ¬ "_not".toList <:+ (defaultSeparator.intercalate names).toList
  key_eq : key = defaultSeparator.intercalate names ++ p.ending

theorem IsKeyFor.parse_eq {names : List String} {p : Predicate} {key : String}
    (h : IsKeyFor names p key) :
    parse Predicate.defaults defaultSeparator key = .ok (some ⟨names, p⟩) := by
  have hcut := splitFields_intercalate h.names_ne h.name_ne h.or_not_mem
  have hjoined : defaultSeparator.intercalate names ≠ "" := by
    intro hempty
    rw [hempty] at hcut
    exact h.names_ne (Except.ok.inj hcut).symm
  rw [h.key_eq]
  exact parse_of_find? (Predicate.find?_default h.predicate_mem hjoined h.not_suffix) hcut
    h.names_ne

/-! ## What is read -/

/-- What can be read of a key: a predicate with whose name the key ends, and fields that are neither
empty nor contain the separator. -/
structure IsReadOf (key : String) (read : FilterKey) : Prop where
  fields_ne : read.fields ≠ []
  field_ne : ∀ field ∈ read.fields, field ≠ ""
  field_not_infix : ∀ field ∈ read.fields, ¬ defaultSeparator.toList <:+: field.toList
  predicate_mem : read.predicate ∈ Predicate.defaults
  ending_suffix : read.predicate.ending.toList <:+ key.toList

/-- Every key is read, with fields and a predicate or as no filter key. -/
theorem exists_parse_eq (key : String) :
    ∃ result, parse Predicate.defaults defaultSeparator key = .ok result ∧
      ∀ read ∈ result, IsReadOf key read := by
  rw [parse]
  split
  · exact ⟨none, rfl, nofun⟩
  · next fieldPart predicate hfind =>
    obtain ⟨hmem, hsuffix⟩ := Predicate.of_find?_eq_some hfind
    rw [splitFields, if_neg (by decide)]
    split
    · next heq => cases heq
    · exact ⟨none, rfl, nofun⟩
    · next fields hne heq =>
      have hfields := Except.ok.inj heq
      refine ⟨_, rfl, ?_⟩
      rintro read ⟨⟩
      have hpiece : ∀ field ∈ fields,
          field ∈ Text.splitOn defaultSeparator fieldPart ∧ field ≠ "" := by
        intro field hfield
        rw [← hfields] at hfield
        simpa using List.mem_filter.mp hfield
      exact ⟨hne, fun field hfield => (hpiece field hfield).2,
        fun field hfield => Text.not_infix_of_mem_splitOn (by decide) (hpiece field hfield).1,
        hmem, hsuffix⟩

/-- Reading undoes writing: a key that is put together from names and a predicate is read as these
names, in order, and this predicate.  Whatever the key, reading it does not fail; and if anything is
read, there is at least one field, no field is empty or contains the separator, and the key ends
with the predicate. -/
theorem parse_joined (key : String) :
    (∀ names p, IsKeyFor names p key →
      parse Predicate.defaults defaultSeparator key = .ok (some ⟨names, p⟩)) ∧
    ∃ result, parse Predicate.defaults defaultSeparator key = .ok result ∧
      ∀ read ∈ result, IsReadOf key read :=
  ⟨fun _ _ h => h.parse_eq, exists_parse_eq key⟩

/-- Underscores around a name, and a name that is part of a predicate, make no difference. -/
theorem parse_joined_underscores :
    IsKeyFor ["created_at", "_not_", "eq"] ⟨"not_eq", .different⟩
        "created_at_or__not__or_eq_not_eq" ∧
      parse Predicate.defaults defaultSeparator "created_at_or__not__or_eq_not_eq" =
        .ok (some ⟨["created_at", "_not_", "eq"], ⟨"not_eq", .different⟩⟩) := by
  have hkey : IsKeyFor ["created_at", "_not_", "eq"] ⟨"not_eq", .different⟩
      "created_at_or__not__or_eq_not_eq" := by
    constructor <;> decide +kernel
  exact ⟨hkey, (parse_joined _).1 _ _ hkey⟩

end FilterKey

end SearchFilter
