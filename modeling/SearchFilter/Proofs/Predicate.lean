import SearchFilter.Proofs.FilterKey

/-!
# The predicate of a key

Keys are matched against the predicates from the front of a list, and the first that applies is
taken.  This is the one with the longest name if no name is the end of a name further back
(`Predicate.find?_eq_some_iff_of_pairwise`): of two names at the end of one key, the shorter one is
the end of the longer one.  The predicates known from the start are ordered like this, which gives
`Predicate.find?_longest`.
-/

namespace SearchFilter.Predicate

/-- A key to which the predicate applies: a field part that is not empty, and behind it an
underscore and the name of the predicate. -/
structure Applies (p : Predicate) (field key : String) : Prop where
  field_ne : field ≠ ""
  key_eq : key = field ++ "_" ++ p.name

variable {registry : List Predicate} {p q : Predicate} {field other key : String}

theorem Applies.key_eq_ending (h : p.Applies field key) : key = field ++ p.ending := by
  rw [ending, ← String.append_assoc]
  exact h.key_eq

theorem Applies.ending_suffix (h : p.Applies field key) : p.ending.toList <:+ key.toList := by
  rw [h.key_eq_ending, String.toList_append]
  exact List.suffix_append _ _

/-- The field part that is found is the one in front of the name. -/
theorem fieldPart?_eq_some_iff : p.fieldPart? key = some field ↔ p.Applies field key := by
  constructor
  · intro h
    by_cases hsuffix : p.ending.toList <:+ key.toList
    · obtain ⟨start, hstart⟩ := hsuffix
      have hkey : key = String.ofList start ++ p.ending := by
        rw [← String.toList_inj, String.toList_append, String.toList_ofList, hstart]
      by_cases hempty : String.ofList start = ""
      · rw [hkey, hempty, String.empty_append, fieldPart?, Text.stripSuffix?] at h
        simp at h
      · rw [hkey, fieldPart?_append p hempty] at h
        cases h
        exact ⟨hempty, by rw [hkey, ending, String.append_assoc]⟩
    · rw [fieldPart?_eq_none hsuffix] at h
      cases h
  · intro h
    rw [h.key_eq_ending, fieldPart?_append p h.field_ne]

/-- No predicate is found if none applies. -/
theorem find?_eq_none_iff :
    find? registry key = none ↔ ∀ p ∈ registry, ∀ field, ¬ p.Applies field key := by
  rw [find?, List.findSome?_eq_none_iff]
  refine forall₂_congr fun p _ => ?_
  rw [Option.map_eq_none_iff, Option.eq_none_iff_forall_ne_some]
  exact forall_congr' fun field => not_congr fieldPart?_eq_some_iff

/-- Of two predicates that apply to a key, the one with the shorter name ends the other. -/
theorem Applies.ending_suffix_of_length_le (hp : p.Applies field key) (hq : q.Applies other key)
    (hlength : p.name.length ≤ q.name.length) : p.ending.toList <:+ q.ending.toList := by
  refine List.suffix_of_suffix_length_le hp.ending_suffix hq.ending_suffix ?_
  rw [String.length_toList, String.length_toList, ending, ending, String.length_append,
    String.length_append]
  exact Nat.add_le_add_left hlength _

section Ordered

variable (hordered : registry.Pairwise fun earlier later =>
  ¬ earlier.ending.toList <:+ later.ending.toList)

include hordered

/-- What is found applies, and has a longer name than anything else that applies. -/
theorem longest_of_find?_eq_some (h : find? registry key = some (field, p)) :
    p ∈ registry ∧ p.Applies field key ∧
      ∀ q ∈ registry, q ≠ p → ∀ other, q.Applies other key → q.name.length < p.name.length := by
  obtain ⟨before, found, after, rfl, hfound, hbefore⟩ := List.findSome?_eq_some_iff.mp h
  obtain ⟨part, hpart, ⟨⟩⟩ := Option.map_eq_some_iff.mp hfound
  have happlies : p.Applies field key := fieldPart?_eq_some_iff.mp hpart
  refine ⟨List.mem_append_right _ List.mem_cons_self, happlies, fun q hq hne other hother => ?_⟩
  rcases List.mem_append.mp hq with hearlier | hlater
  · -- An earlier predicate that applies would have been taken.
    have hnone := hbefore q hearlier
    rw [fieldPart?_eq_some_iff.mpr hother] at hnone
    cases hnone
  · have hafter : q ∈ after := List.mem_of_ne_of_mem hne hlater
    have hnot : ¬ p.ending.toList <:+ q.ending.toList :=
      List.rel_of_pairwise_cons (List.pairwise_append.mp hordered).2.1 hafter
    by_contra hlonger
    exact hnot (happlies.ending_suffix_of_length_le hother (Nat.le_of_not_lt hlonger))

/-- Where no name ends a name further back, the predicate that is found is the one with the longest
name among those that apply. -/
theorem find?_eq_some_iff_of_pairwise :
    find? registry key = some (field, p) ↔
      p ∈ registry ∧ p.Applies field key ∧
        ∀ q ∈ registry, q ≠ p → ∀ other, q.Applies other key →
          q.name.length < p.name.length := by
  refine ⟨longest_of_find?_eq_some hordered, ?_⟩
  rintro ⟨hp, happlies, hlongest⟩
  cases hfind : find? registry key with
  | none => exact absurd happlies (find?_eq_none_iff.mp hfind p hp field)
  | some found =>
    obtain ⟨part, q⟩ := found
    obtain ⟨hq, hpart, hlongest'⟩ := longest_of_find?_eq_some hordered hfind
    obtain rfl : q = p := by
      by_contra hne
      exact Nat.lt_asymm (hlongest q hq hne part hpart)
        (hlongest' p hp (Ne.symm hne) field happlies)
    have hfield := (fieldPart?_eq_some_iff.mpr hpart).symm.trans
      (fieldPart?_eq_some_iff.mpr happlies)
    cases hfield
    rfl

end Ordered

/-- No predicate is found for a key exactly if none of those known from the start leaves a field
part.  Otherwise the one with the longest name is found, and any other that leaves a field part has
a shorter name. -/
theorem find?_longest (key : String) :
    (find? defaults key = none ↔ ∀ p ∈ defaults, ∀ field, ¬ p.Applies field key) ∧
      ∀ field p, find? defaults key = some (field, p) ↔
        p ∈ defaults ∧ p.Applies field key ∧
          ∀ q ∈ defaults, q ≠ p → ∀ other, q.Applies other key →
            q.name.length < p.name.length :=
  ⟨find?_eq_none_iff, fun _ _ =>
    find?_eq_some_iff_of_pairwise (pairwise_defaults.imp And.left)⟩

/-- The longer predicate yields where it would leave no field. -/
example : find? defaults "_not_null" = some ("_not", ⟨"null", .absent⟩) := by decide +kernel

end SearchFilter.Predicate
