import Mathlib.Data.List.Nodup
import SearchFilter.Entries

/-!
# Looking up and putting entries

What is known of entries in order without two equal keys: which value a key has
(`lookup_eq_some_of_mem`), and what becomes of the entries and of their keys (`map_fst_put`) when a
new key, the key that came last, or any key is given a value.
-/

namespace SearchFilter.Entries

variable {κ α : Type} [BEq κ] [LawfulBEq κ] {key : κ} {entries : List (κ × α)}

theorem lookup_eq_none_of_not_mem (h : key ∉ entries.map Prod.fst) : entries.lookup key = none := by
  rw [List.lookup_eq_none_iff]
  intro entry hentry
  have hne : key ≠ entry.1 := fun heq => h (heq ▸ List.mem_map_of_mem hentry)
  simpa using hne

/-- The value of a key stands beside it. -/
theorem mem_of_lookup_eq_some {value : α} (h : entries.lookup key = some value) :
    (key, value) ∈ entries := by
  obtain ⟨before, after, rfl, _⟩ := List.lookup_eq_some_iff.mp h
  exact List.mem_append_right _ List.mem_cons_self

/-- Among different keys, each has the value that stands beside it. -/
theorem lookup_eq_some_of_mem (hdistinct : (entries.map Prod.fst).Nodup) {value : α}
    (h : (key, value) ∈ entries) : entries.lookup key = some value := by
  obtain ⟨before, after, rfl⟩ := List.append_of_mem h
  refine List.lookup_eq_some_iff.mpr ⟨before, after, rfl, fun entry hentry => ?_⟩
  rw [List.map_append, List.nodup_append] at hdistinct
  have hne := hdistinct.2.2 entry.1 (List.mem_map_of_mem hentry) key (by simp)
  simpa using hne.symm

omit [LawfulBEq κ] in
theorem lookup_map_snd {β : Type} (f : α → β) (key : κ) (entries : List (κ × α)) :
    (entries.map fun entry => (entry.1, f entry.2)).lookup key = (entries.lookup key).map f := by
  induction entries with
  | nil => rfl
  | cons entry rest ih =>
    rw [List.map_cons, List.lookup_cons, List.lookup_cons, ih]
    split <;> rfl

/-! ## New keys -/

theorem of_lookup_cons_eq_none {k : κ} {v : α} (h : ((k, v) :: entries).lookup key = none) :
    (k == key) = false ∧ entries.lookup key = none := by
  rw [List.lookup_cons] at h
  split at h
  · cases h
  · next hne => exact ⟨beq_eq_false_iff_ne.mpr (beq_eq_false_iff_ne.mp hne).symm, h⟩

theorem put_of_lookup_eq_none (h : entries.lookup key = none) (value : α) :
    put key value entries = entries ++ [(key, value)] := by
  induction entries with
  | nil => rfl
  | cons entry rest ih =>
    obtain ⟨k, v⟩ := entry
    obtain ⟨hne, hrest⟩ := of_lookup_cons_eq_none h
    rw [put, hne, ih hrest]
    rfl

theorem lookup_append_singleton (h : entries.lookup key = none) (value : α) :
    (entries ++ [(key, value)]).lookup key = some value :=
  List.lookup_eq_some_iff.mpr ⟨entries, [], rfl, List.lookup_eq_none_iff.mp h⟩

theorem put_append_singleton (h : entries.lookup key = none) (value value' : α) :
    put key value' (entries ++ [(key, value)]) = entries ++ [(key, value')] := by
  induction entries with
  | nil => simp [put]
  | cons entry rest ih =>
    obtain ⟨k, v⟩ := entry
    obtain ⟨hne, hrest⟩ := of_lookup_cons_eq_none h
    rw [List.cons_append, put, hne]
    simp only [Bool.false_eq_true, if_false, ih hrest, List.cons_append]

/-! ## Any key -/

theorem lookup_put_self (key : κ) (value : α) (entries : List (κ × α)) :
    (put key value entries).lookup key = some value := by
  induction entries with
  | nil => simp [put]
  | cons entry rest ih =>
    obtain ⟨k, v⟩ := entry
    rw [put]
    split
    · next heq => rw [eq_of_beq heq, List.lookup_cons_self]
    · next hne =>
      have hne' : key ≠ k := fun heq => hne (heq ▸ beq_self_eq_true k)
      rw [List.lookup_cons, beq_eq_false_iff_ne.mpr hne', ih]

theorem lookup_put_of_ne {other : κ} (h : other ≠ key) (value : α) (entries : List (κ × α)) :
    (put key value entries).lookup other = entries.lookup other := by
  induction entries with
  | nil => simp [put, h]
  | cons entry rest ih =>
    obtain ⟨k, v⟩ := entry
    rw [put]
    split
    · next heq =>
      rw [eq_of_beq heq, List.lookup_cons, List.lookup_cons, beq_eq_false_iff_ne.mpr h]
    · rw [List.lookup_cons, List.lookup_cons, ih]

/-- Giving a key the value that it has changes nothing. -/
theorem put_of_lookup_eq_some {value : α} (h : entries.lookup key = some value) :
    put key value entries = entries := by
  induction entries with
  | nil => cases h
  | cons entry rest ih =>
    obtain ⟨k, v⟩ := entry
    rw [put]
    rw [List.lookup_cons] at h
    split
    · next heq =>
      rw [eq_of_beq heq, beq_self_eq_true] at h
      rw [Option.some.inj h]
    · next hne =>
      rw [beq_eq_false_iff_ne.mpr fun heq => hne (beq_iff_eq.mpr heq.symm)] at h
      rw [ih h]

/-- Every entry is an old one, or the one that was put. -/
theorem of_mem_put {value : α} {entry : κ × α} (h : entry ∈ put key value entries) :
    entry = (key, value) ∨ entry ∈ entries := by
  induction entries with
  | nil => exact .inl (List.mem_singleton.mp h)
  | cons first rest ih =>
    obtain ⟨k, v⟩ := first
    rw [put] at h
    split at h
    · next heq =>
      rcases List.mem_cons.mp h with rfl | hrest
      · exact .inl (by rw [eq_of_beq heq])
      · exact .inr (List.mem_cons_of_mem _ hrest)
    · rcases List.mem_cons.mp h with rfl | hrest
      · exact .inr List.mem_cons_self
      · exact (ih hrest).imp id (List.mem_cons_of_mem _)

theorem nodup_put (hdistinct : (entries.map Prod.fst).Nodup) (key : κ) (value : α) :
    ((put key value entries).map Prod.fst).Nodup := by
  induction entries with
  | nil => simp [put]
  | cons entry rest ih =>
    obtain ⟨k, v⟩ := entry
    rw [List.map_cons, List.nodup_cons] at hdistinct
    rw [put]
    split
    · exact List.nodup_cons.mpr hdistinct
    · next hne =>
      refine List.nodup_cons.mpr ⟨fun hmem => ?_, ih hdistinct.2⟩
      obtain ⟨other, hother, hkey⟩ := List.mem_map.mp hmem
      rcases of_mem_put hother with rfl | hold
      · exact hne (beq_iff_eq.mpr hkey.symm)
      · exact hdistinct.1 (hkey ▸ List.mem_map_of_mem hold)

theorem nodup_putAll (hdistinct : (entries.map Prod.fst).Nodup) (pairs : List (κ × α)) :
    ((putAll entries pairs).map Prod.fst).Nodup := by
  induction pairs generalizing entries with
  | nil => exact hdistinct
  | cons pair rest ih => exact ih (nodup_put hdistinct pair.1 pair.2)

/-- Pairs with different keys, all of them new, are added as they are. -/
theorem putAll_of_nodup {pairs : List (κ × α)} (h : ((entries ++ pairs).map Prod.fst).Nodup) :
    putAll entries pairs = entries ++ pairs := by
  induction pairs generalizing entries with
  | nil => exact (List.append_nil entries).symm
  | cons pair rest ih =>
    have hnew : entries.lookup pair.1 = none := by
      refine lookup_eq_none_of_not_mem fun hmem => ?_
      rw [List.map_append, List.nodup_append] at h
      exact h.2.2 _ hmem _ List.mem_cons_self rfl
    have happend : entries ++ pair :: rest = (entries ++ [pair]) ++ rest := by simp
    rw [happend] at h ⊢
    rw [← ih h, putAll, List.foldl_cons, putAll, put_of_lookup_eq_none hnew]

/-- Pairs with different keys are entries as they are. -/
theorem ofPairs_of_nodup {pairs : List (κ × α)} (h : (pairs.map Prod.fst).Nodup) :
    ofPairs pairs = pairs :=
  putAll_of_nodup h

/-! ## Keys -/

/-- A key that is put keeps its place, or comes last. -/
theorem map_fst_put (key : κ) (value : α) (entries : List (κ × α)) :
    (put key value entries).map Prod.fst =
      if key ∈ entries.map Prod.fst then entries.map Prod.fst
      else entries.map Prod.fst ++ [key] := by
  induction entries with
  | nil => rfl
  | cons entry rest ih =>
    obtain ⟨k, v⟩ := entry
    rw [put]
    split
    · next heq => simp [eq_of_beq heq]
    · next hne =>
      have hne' : key ≠ k := fun heq => hne (beq_iff_eq.mpr heq.symm)
      rw [List.map_cons, ih]
      simp only [List.map_cons, List.mem_cons, hne', false_or]
      split <;> rfl

/-- Entries with different keys are in any order the same, if every key has the same value. -/
theorem perm_of_lookup_eq {others : List (κ × α)} (h : (entries.map Prod.fst).Nodup)
    (h' : (others.map Prod.fst).Nodup) (hlookup : ∀ key, entries.lookup key = others.lookup key) :
    entries.Perm others := by
  have hmem : ∀ {first second : List (κ × α)}, (first.map Prod.fst).Nodup →
      (∀ key, first.lookup key = second.lookup key) → ∀ entry ∈ first, entry ∈ second := by
    intro first second hdistinct heq entry hentry
    have hsome := lookup_eq_some_of_mem hdistinct hentry
    rw [heq] at hsome
    obtain ⟨before, after, rfl, _⟩ := List.lookup_eq_some_iff.mp hsome
    exact List.mem_append_right _ List.mem_cons_self
  rw [List.perm_ext_iff_of_nodup (List.Nodup.of_map _ h) (List.Nodup.of_map _ h')]
  exact fun entry => ⟨hmem h hlookup entry, hmem h' (fun key => (hlookup key).symm) entry⟩

end SearchFilter.Entries
