import SearchFilter.Proofs.Entries
import SearchFilter.QueryString.Encoding

/-!
# Building parameters from their leaves

`assign` puts one text at a time into the parameters.  When the texts come depth first, each map and
list is built up at the end of the entries before the next name begins, so the parameters that
result are those the texts were taken from: `foldl_assignLeaf_entryLeaves`.

The invariant is that the entry being built is the last one.  `foldl_into_map` and `foldl_into_list`
carry it through the leaves of a map and of a list.
-/

namespace SearchFilter.QueryString

open Param (entryLeaves isWritable areWritable isName)

/-- Puts a text at the names that lead to it. -/
def assignLeaf (params : List (String × Param)) (leaf : List String × String) :
    List (String × Param) :=
  match leaf.1 with
  | [] => params
  | name :: below => assign name leaf.2 below params

variable {params : List (String × Param)} {name : String}

theorem assign_item (name value : String) (params : List (String × Param)) :
    assign name value [""] params =
      match params.lookup name with
      | none => Entries.put name (.list [value]) params
      | some (.list items) => Entries.put name (.list (items ++ [value])) params
      | some _ => params :=
  rfl

theorem assign_inward {next : String} (h : next ≠ "") (name value : String) (below : List String)
    (params : List (String × Param)) :
    assign name value (next :: below) params =
      match params.lookup name with
      | none => Entries.put name (.map (assign next value below [])) params
      | some (.map entries) => Entries.put name (.map (assign next value below entries)) params
      | some _ => params := by
  have hinward : ¬ (next.isEmpty && below.isEmpty) = true := by
    rw [String.isEmpty_eq_false_iff.mpr h, Bool.false_and]
    exact Bool.false_ne_true
  exact if_neg hinward

/-! ## Lists -/

/-- More items are added to the list that came last. -/
theorem foldl_into_list (hnew : params.lookup name = none) (items more : List String) :
    (more.map fun item => ([name, ""], item)).foldl assignLeaf
        (params ++ [(name, .list items)]) =
      params ++ [(name, .list (items ++ more))] := by
  induction more generalizing items with
  | nil => simp
  | cons item more ih =>
    have hfirst : assignLeaf (params ++ [(name, .list items)]) ([name, ""], item) =
        params ++ [(name, .list (items ++ [item]))] := by
      show assign name item [""] _ = _
      rw [assign_item, Entries.lookup_append_singleton hnew]
      exact Entries.put_append_singleton hnew _ _
    rw [List.map_cons, List.foldl_cons, hfirst, ih, List.append_assoc, List.singleton_append]

theorem foldl_list (hnew : params.lookup name = none) {items : List String} (hne : items ≠ []) :
    (items.map fun item => ([name, ""], item)).foldl assignLeaf params =
      params ++ [(name, .list items)] := by
  obtain ⟨item, more, rfl⟩ := List.exists_cons_of_ne_nil hne
  have hfirst : assignLeaf params ([name, ""], item) = params ++ [(name, .list [item])] := by
    show assign name item [""] params = _
    rw [assign_item, hnew]
    exact Entries.put_of_lookup_eq_none hnew _
  rw [List.map_cons, List.foldl_cons, hfirst, foldl_into_list hnew, List.singleton_append]

/-! ## Maps -/

/-- The leaf leads into a map: there is a name below the first that is not empty. -/
def LeadsInward (leaf : List String × String) : Prop :=
  ∃ name below, leaf.1 = name :: below ∧ name ≠ ""

/-- The same leaf, one level further in. -/
def under (name : String) (leaf : List String × String) : List String × String :=
  (name :: leaf.1, leaf.2)

theorem assignLeaf_under_of_new (hnew : params.lookup name = none) {leaf : List String × String}
    (hleaf : LeadsInward leaf) :
    assignLeaf params (under name leaf) = params ++ [(name, .map (assignLeaf [] leaf))] := by
  obtain ⟨path, value⟩ := leaf
  obtain ⟨next, below, rfl, hne⟩ := hleaf
  show assign name value (next :: below) params = _
  rw [assign_inward hne, hnew]
  exact Entries.put_of_lookup_eq_none hnew _

theorem assignLeaf_under_of_last (hnew : params.lookup name = none)
    {leaf : List String × String} (hleaf : LeadsInward leaf) (entries : List (String × Param)) :
    assignLeaf (params ++ [(name, .map entries)]) (under name leaf) =
      params ++ [(name, .map (assignLeaf entries leaf))] := by
  obtain ⟨path, value⟩ := leaf
  obtain ⟨next, below, rfl, hne⟩ := hleaf
  show assign name value (next :: below) _ = _
  rw [assign_inward hne, Entries.lookup_append_singleton hnew]
  exact Entries.put_append_singleton hnew _ _

/-- More texts go into the map that came last. -/
theorem foldl_into_map (hnew : params.lookup name = none) (entries : List (String × Param))
    {leaves : List (List String × String)} (hleaves : ∀ leaf ∈ leaves, LeadsInward leaf) :
    (leaves.map (under name)).foldl assignLeaf (params ++ [(name, .map entries)]) =
      params ++ [(name, .map (leaves.foldl assignLeaf entries))] := by
  induction leaves generalizing entries with
  | nil => rfl
  | cons leaf rest ih =>
    rw [List.map_cons, List.foldl_cons, List.foldl_cons,
      assignLeaf_under_of_last hnew (hleaves leaf List.mem_cons_self),
      ih _ fun other hother => hleaves other (List.mem_cons_of_mem _ hother)]

theorem foldl_map (hnew : params.lookup name = none) {leaves : List (List String × String)}
    (hne : leaves ≠ []) (hleaves : ∀ leaf ∈ leaves, LeadsInward leaf) :
    (leaves.map (under name)).foldl assignLeaf params =
      params ++ [(name, .map (leaves.foldl assignLeaf []))] := by
  obtain ⟨leaf, rest, rfl⟩ := List.exists_cons_of_ne_nil hne
  rw [List.map_cons, List.foldl_cons, List.foldl_cons,
    assignLeaf_under_of_new hnew (hleaves leaf List.mem_cons_self),
    foldl_into_map hnew _ fun other hother => hleaves other (List.mem_cons_of_mem _ hother)]

/-! ## Whole parameters -/

theorem isName_ne_empty (h : isName name = true) : name ≠ "" := by
  rintro rfl
  cases h

/-- What writable entries begin with. -/
theorem areWritable_cons {param : Param} {rest : List (String × Param)}
    (h : areWritable ((name, param) :: rest) = true) :
    isName name = true ∧ name ∉ rest.map Prod.fst ∧ param.isWritable = true ∧
      areWritable rest = true := by
  rw [areWritable] at h
  simp only [Bool.and_eq_true, Bool.not_eq_true', List.contains_eq_mem,
    decide_eq_false_iff_not] at h
  exact ⟨h.1.1.1, h.1.1.2, h.1.2, h.2⟩

theorem leadsInward_of_mem_entryLeaves {entries : List (String × Param)}
    (h : areWritable entries = true) : ∀ leaf ∈ entryLeaves entries, LeadsInward leaf := by
  induction entries with
  | nil => exact fun leaf hleaf => absurd hleaf List.not_mem_nil
  | cons entry rest ih =>
    obtain ⟨name, param⟩ := entry
    obtain ⟨hname, _, _, hrest⟩ := areWritable_cons h
    intro leaf hleaf
    rw [entryLeaves] at hleaf
    rcases List.mem_append.mp hleaf with hfirst | hothers
    · obtain ⟨below, _, rfl⟩ := List.mem_map.mp hfirst
      exact ⟨name, below.1, rfl, isName_ne_empty hname⟩
    · exact ih hrest leaf hothers

mutual

theorem leaves_ne_nil : ∀ {param : Param}, param.isWritable = true → param.leaves ≠ []
  | .text s, _ => by simp [Param.leaves]
  | .list items, h => by
    rw [Param.isWritable] at h
    simpa [Param.leaves] using h
  | .map entries, h => by
    rw [Param.isWritable, Bool.and_eq_true] at h
    rw [Param.leaves]
    exact entryLeaves_ne_nil (by simpa using h.1) h.2

theorem entryLeaves_ne_nil : ∀ {entries : List (String × Param)}, entries ≠ [] →
    areWritable entries = true → entryLeaves entries ≠ []
  | [], hne, _ => absurd rfl hne
  | (name, param) :: rest, _, h => by
    obtain ⟨_, _, hparam, _⟩ := areWritable_cons h
    simp [entryLeaves, leaves_ne_nil hparam]

end

mutual

/-- Putting the texts of a parameter under a new name adds the parameter at the end. -/
theorem foldl_assignLeaf_leaves : ∀ {param : Param}, param.isWritable = true →
    ∀ {params : List (String × Param)} {name : String}, params.lookup name = none →
      (param.leaves.map (under name)).foldl assignLeaf params = params ++ [(name, param)]
  | .text s, _, params, name, hnew => by
    rw [Param.leaves]
    exact Entries.put_of_lookup_eq_none hnew _
  | .list items, h, params, name, hnew => by
    rw [Param.isWritable] at h
    rw [Param.leaves, List.map_map]
    exact foldl_list hnew (by simpa using h)
  | .map entries, h, params, name, hnew => by
    rw [Param.isWritable, Bool.and_eq_true] at h
    have hne : entries ≠ [] := by simpa using h.1
    rw [Param.leaves, foldl_map hnew (entryLeaves_ne_nil hne h.2)
      (leadsInward_of_mem_entryLeaves h.2),
      foldl_assignLeaf_entryLeaves h.2 fun _ _ => rfl, List.nil_append]

/-- Putting the texts of entries whose names are new adds the entries at the end. -/
theorem foldl_assignLeaf_entryLeaves : ∀ {entries : List (String × Param)},
    areWritable entries = true →
    ∀ {params : List (String × Param)}, (∀ entry ∈ entries, params.lookup entry.1 = none) →
      (entryLeaves entries).foldl assignLeaf params = params ++ entries
  | [], _, params, _ => by simp [entryLeaves]
  | (name, param) :: rest, h, params, hnew => by
    obtain ⟨_, hfresh, hparam, hrest⟩ := areWritable_cons h
    have hstill : ∀ entry ∈ rest, (params ++ [(name, param)]).lookup entry.1 = none := by
      intro entry hentry
      have hne : entry.1 ≠ name := fun heq => hfresh (heq ▸ List.mem_map_of_mem hentry)
      have hold := List.lookup_eq_none_iff.mp (hnew entry (List.mem_cons_of_mem _ hentry))
      rw [List.lookup_eq_none_iff]
      intro other hother
      rcases List.mem_append.mp hother with hbefore | hlast
      · exact hold other hbefore
      · rw [List.mem_singleton.mp hlast]
        simpa using hne
    rw [entryLeaves, List.foldl_append]
    have hfirst := foldl_assignLeaf_leaves hparam (hnew (name, param) List.mem_cons_self)
    unfold under at hfirst
    rw [hfirst, foldl_assignLeaf_entryLeaves hrest hstill, List.append_assoc,
      List.singleton_append]

end

end SearchFilter.QueryString
