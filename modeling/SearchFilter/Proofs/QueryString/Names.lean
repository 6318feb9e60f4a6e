import SearchFilter.Proofs.QueryString.RoundTrip

/-!
# Names of a query string

The parameters of a query string are built from its pairs one after the other, and every pair goes
under the name at the start of its key.  Pairs with different names never meet, whatever shapes they
ask for: `build_apart`.

`assign_eq` is the step: what a pair puts under its name (`renewed`) depends on what stands there
and on nothing else.  `lookup_foldl_assignPair` is the run: under each name the pairs of that name
have acted, and no others.
-/

namespace SearchFilter.QueryString

/-! ## The step -/

/-- A list with one more item.  What is no list stays as it is. -/
def withItem (value : String) : Option Param → Param
  | none => .list [value]
  | some (.list items) => .list (items ++ [value])
  | some other => other

/-- A map with a value put at a path in it.  What is no map stays as it is. -/
def withBelow (next value : String) (below : List String) : Option Param → Param
  | none => .map (assign next value below [])
  | some (.map entries) => .map (assign next value below entries)
  | some other => other

/-- What stands under a name after a value has been put at a path, by what stood there before. -/
def renewed (value : String) : List String → Option Param → Param
  | [], _ => .text value
  | next :: below, old =>
    if next.isEmpty && below.isEmpty then withItem value old else withBelow next value below old

/-- Putting a value at a path gives its name something new, or what it has. -/
theorem assign_eq (name value : String) (below : List String) (params : List (String × Param)) :
    assign name value below params =
      Entries.put name (renewed value below (params.lookup name)) params := by
  cases below with
  | nil => rfl
  | cons next below =>
    rw [assign, renewed]
    -- a conflict leaves the parameters as they are, which is to put what is there
    split
    · cases hlookup : params.lookup name with
      | none => rfl
      | some param =>
        cases param with
        | list items => rfl
        | text s | map entries => exact (Entries.put_of_lookup_eq_some hlookup).symm
    · cases hlookup : params.lookup name with
      | none => rfl
      | some param =>
        cases param with
        | map entries => rfl
        | text s | list items => exact (Entries.put_of_lookup_eq_some hlookup).symm

/-- The name of a decoded pair: its key as far as the first bracket. -/
def nameOf (pair : List Char × List Char) : String :=
  String.ofList (pair.1.takeWhile (· != '['))

theorem name_ofKey (key : List Char) :
    (Path.ofKey key).name = String.ofList (key.takeWhile (· != '[')) := by
  rw [Path.ofKey, Text.fst_cutAt]

/-- What a decoded pair leaves under its name. -/
def renewedBy (old : Option Param) (pair : List Char × List Char) : Param :=
  renewed (String.ofList pair.2) (Path.ofKey pair.1).below old

theorem assignPair_eq (params : List (String × Param)) (pair : List Char × List Char) :
    assignPair params pair =
      Entries.put (nameOf pair) (renewedBy (params.lookup (nameOf pair)) pair) params := by
  rw [assignPair, assign_eq, name_ofKey]
  rfl

/-! ## The run -/

/-- The parameters built from decoded pairs. -/
def build (pairs : List (List Char × List Char)) : List (String × Param) :=
  pairs.foldl assignPair []

theorem build_concat (pairs : List (List Char × List Char)) (pair : List Char × List Char) :
    build (pairs ++ [pair]) = assignPair (build pairs) pair := by
  rw [build, List.foldl_append]
  rfl

/-- The pairs of one name, in their order. -/
def named (name : String) (pairs : List (List Char × List Char)) : List (List Char × List Char) :=
  pairs.filter (nameOf · == name)

variable {pairs : List (List Char × List Char)} {pair : List Char × List Char} {name : String}

theorem named_cons_of_eq (h : nameOf pair = name) (pairs : List (List Char × List Char)) :
    named name (pair :: pairs) = pair :: named name pairs :=
  List.filter_cons_of_pos (beq_iff_eq.mpr h)

theorem named_cons_of_ne (h : nameOf pair ≠ name) (pairs : List (List Char × List Char)) :
    named name (pair :: pairs) = named name pairs :=
  List.filter_cons_of_neg (by simpa using h)

theorem named_named (name : String) (pairs : List (List Char × List Char)) :
    named name (named name pairs) = named name pairs := by
  rw [named, named, List.filter_filter]
  simp only [Bool.and_self]

/-- Under a name, the pairs of that name have acted one after the other, and no others. -/
theorem lookup_foldl_assignPair (name : String) (pairs : List (List Char × List Char))
    (params : List (String × Param)) :
    (pairs.foldl assignPair params).lookup name =
      (named name pairs).foldl (fun old pair => some (renewedBy old pair))
        (params.lookup name) := by
  induction pairs generalizing params with
  | nil => rfl
  | cons pair rest ih =>
    rw [List.foldl_cons, ih, assignPair_eq]
    by_cases hname : nameOf pair = name
    · rw [named_cons_of_eq hname, List.foldl_cons, hname, Entries.lookup_put_self]
    · rw [named_cons_of_ne hname, Entries.lookup_put_of_ne (Ne.symm hname)]

theorem lookup_build (name : String) (pairs : List (List Char × List Char)) :
    (build pairs).lookup name =
      (named name pairs).foldl (fun old pair => some (renewedBy old pair)) none :=
  lookup_foldl_assignPair name pairs []

/-- A name is there if it has pairs, even if they are in conflict. -/
theorem lookup_build_eq_none_iff : (build pairs).lookup name = none ↔ named name pairs = [] := by
  rw [lookup_build]
  cases named name pairs using List.reverseRecOn with
  | nil => simp
  | append_singleton before last => simp

/-- The names come in the order in which they occur first. -/
theorem map_fst_build (pairs : List (List Char × List Char)) :
    (build pairs).map Prod.fst = (pairs.map nameOf).eraseDups := by
  induction pairs using List.reverseRecOn with
  | nil => rfl
  | append_singleton pairs pair ih =>
    rw [build_concat, assignPair_eq, Entries.map_fst_put, ih, List.map_append, List.map_singleton,
      List.eraseDups_append]
    by_cases hname : nameOf pair ∈ pairs.map nameOf
    · rw [if_pos (List.mem_eraseDups.mpr hname)]
      simp [List.removeAll, hname]
    · rw [if_neg (mt List.mem_eraseDups.mp hname)]
      simp [List.removeAll, hname, List.eraseDups_cons]

theorem nodup_build (pairs : List (List Char × List Char)) :
    ((build pairs).map Prod.fst).Nodup := by
  induction pairs using List.reverseRecOn with
  | nil => exact List.nodup_nil
  | append_singleton pairs pair ih =>
    rw [build_concat, assignPair_eq]
    exact Entries.nodup_put ih _ _

/-- Pairs with different names do not meet.  Under each name stands what its own pairs build, in
their order, and nothing if it has none; so pairs may be interleaved in any way that keeps the order
within each name.  The names come in the order in which they occur first. -/
theorem build_apart (pairs : List (List Char × List Char)) :
    ((∃ query, decodePairs query = pairs) ∧
        ∀ query, decodePairs query = pairs → ofQuery query = build pairs) ∧
      (∀ name, (build pairs).lookup name = (build (named name pairs)).lookup name ∧
        ((build pairs).lookup name = none ↔ named name pairs = [])) ∧
      (∀ others, (∀ name, named name others = named name pairs) →
        (build others).Perm (build pairs)) ∧
      (build pairs).map Prod.fst = (pairs.map nameOf).eraseDups := by
  refine ⟨⟨exists_decodePairs_eq pairs, ?_⟩, fun name => ⟨?_, lookup_build_eq_none_iff⟩,
    fun others hothers => ?_, map_fst_build pairs⟩
  · rintro query rfl
    rfl
  · rw [lookup_build, lookup_build, named_named]
  · refine Entries.perm_of_lookup_eq (nodup_build others) (nodup_build pairs) fun name => ?_
    rw [lookup_build, lookup_build, hothers]

/-- Pairs of two names that ask for different shapes under each. -/
def conflictingPairs : List (List Char × List Char) :=
  [("a[", "1"), ("c[]", "x"), ("a[b]", "2"), ("c[k]", "3"), ("c[]", "y")].map fun pair =>
    (pair.1.toList, pair.2.toList)

/-- The same pairs in another order, but that of the pairs of each name. -/
def interleavedPairs : List (List Char × List Char) :=
  [("c[]", "x"), ("c[k]", "3"), ("a[", "1"), ("c[]", "y"), ("a[b]", "2")].map fun pair =>
    (pair.1.toList, pair.2.toList)

example : build conflictingPairs = [("a", .text "1"), ("c", .list ["x", "y"])] := by rfl

/-- An instance of `build_apart`. -/
theorem build_apart_conflictingPairs :
    decodePairs "a[=1&c[]=x&a[b]=2&c[k]=3&c[]=y" = conflictingPairs ∧
      ofQuery "a[=1&c[]=x&a[b]=2&c[k]=3&c[]=y" = build conflictingPairs ∧
      (∀ name, named name interleavedPairs = named name conflictingPairs) ∧
      (build interleavedPairs).Perm (build conflictingPairs) := by
  have hdecoded : decodePairs "a[=1&c[]=x&a[b]=2&c[k]=3&c[]=y" = conflictingPairs := by
    decide +kernel
  have hnamed : ∀ name, named name interleavedPairs = named name conflictingPairs := by
    have hnames : ∀ pairs ∈ [interleavedPairs, conflictingPairs], ∀ pair ∈ pairs,
        nameOf pair = "a" ∨ nameOf pair = "c" := by decide
    intro name
    by_cases ha : name = "a"
    · rw [ha]
      decide
    · by_cases hc : name = "c"
      · rw [hc]
        decide
      · have hnone : ∀ pairs ∈ [interleavedPairs, conflictingPairs], named name pairs = [] := by
          intro pairs hpairs
          refine List.filter_eq_nil_iff.mpr fun pair hpair => ?_
          rcases hnames pairs hpairs pair hpair with h | h <;> simp [h, Ne.symm ha, Ne.symm hc]
        rw [hnone _ (by simp), hnone _ (by simp)]
  obtain ⟨⟨_, hquery⟩, _, hperm, _⟩ := build_apart conflictingPairs
  exact ⟨hdecoded, hquery _ hdecoded, hnamed, hperm _ hnamed⟩

end SearchFilter.QueryString
