import SearchFilter.Proofs.QueryString.Building
import SearchFilter.Proofs.QueryString.Decoding
import SearchFilter.Proofs.Text.Blank
import SearchFilter.Proofs.Text.Split

/-!
# Query strings are read as they were written

`ofQuery_encode` is the result: parameters that can be written are what their query string is read
as, with the order of names and items kept at every level.

Reading goes through the stages of writing in the opposite order.  `decodePairs_encode` cuts the
text into pairs and decodes these; that works because the separators occur in a written pair only
where they separate.  `assignPair_keyText` reads a key as the path it was written for.  What is left
is to build the parameters from their leaves, which `foldl_assignLeaf_entryLeaves` does.
-/

namespace SearchFilter.QueryString

open SearchFilter.Text
open Param (entryLeaves areWritable isName)

/-! ## Keys -/

theorem bracketedAfter_append {cs : List Char} (h : ']' ∉ cs) (opened rest : List Char) :
    bracketedAfter (some opened) (cs ++ ']' :: rest) =
      (opened.reverse ++ cs) :: bracketedAfter none rest := by
  induction cs generalizing opened with
  | nil => simp [bracketedAfter]
  | cons c cs ih =>
    obtain ⟨hne, hrest⟩ := not_or.mp (mt List.mem_cons.mpr h)
    rw [List.cons_append, bracketedAfter, if_neg (by simpa using Ne.symm hne), ih hrest]
    simp

/-- A text without brackets. -/
def NoBrackets (s : String) : Prop :=
  '[' ∉ s.toList ∧ ']' ∉ s.toList

theorem bracketed_append (name : String) (rest : List Char) :
    bracketed name ++ rest = '[' :: (name.toList ++ ']' :: rest) := by
  simp [bracketed]

theorem bracketedAfter_none {below : List String} (h : ∀ name ∈ below, NoBrackets name) :
    bracketedAfter none (below.flatMap bracketed) = below.map String.toList := by
  induction below with
  | nil => rfl
  | cons name below ih =>
    have hname := (h name List.mem_cons_self).2
    have hbelow := ih fun other hother => h other (List.mem_cons_of_mem _ hother)
    rw [List.flatMap_cons, bracketed_append, bracketedAfter]
    simp only [beq_self_eq_true, if_true]
    rw [bracketedAfter_append hname, hbelow]
    rfl

/-- A key is read as the names it was written for. -/
theorem ofKey_keyText {name : String} {below : List String}
    (h : ∀ part ∈ name :: below, NoBrackets part) :
    Path.ofKey (keyText (name :: below)) = ⟨name, below⟩ := by
  have hname := (h name List.mem_cons_self).1
  cases below with
  | nil => simp [Path.ofKey, keyText, cutAt_of_not_mem hname, bracketedAfter]
  | cons part below =>
    have hpart := (h part (by simp)).2
    have hbelow : bracketedAfter none (below.flatMap bracketed) = below.map String.toList :=
      bracketedAfter_none fun other hother => h other (by simp [hother])
    rw [Path.ofKey, keyText, List.flatMap_cons, bracketed_append, cutAt_append hname]
    simp only [Option.getD_some]
    rw [bracketedAfter_append hpart, hbelow]
    simp

/-! ## Pairs -/

theorem toNat_of_isAlphanum {c : Char} (h : c.isAlphanum = true) :
    (48 ≤ c.toNat ∧ c.toNat ≤ 57) ∨ (65 ≤ c.toNat ∧ c.toNat ≤ 90) ∨
      (97 ≤ c.toNat ∧ c.toNat ≤ 122) := by
  have hranges : (decide (65 ≤ c.val ∧ c.val ≤ 90) || (97 ≤ c.val && c.val ≤ 122) ||
      (48 ≤ c.val && c.val ≤ 57)) = true := h
  simp only [Bool.or_eq_true, Bool.and_eq_true, decide_eq_true_eq, UInt32.le_iff_toNat_le,
    UInt32.reduceToNat, Char.toNat_val] at hranges
  omega

theorem isPlain_of_isAlphanum {c : Char} (h : c.isAlphanum = true) : IsPlain c := by
  have hrange := toNat_of_isAlphanum h
  refine ⟨by omega, ?_, ?_⟩
  · rintro rfl
    cases h
  · rintro rfl
    cases h

variable (bareBrackets : Bool)

theorem isPlain_of_staysInKey {c : Char} (h : staysInKey bareBrackets c = true) : IsPlain c := by
  rw [staysInKey, Bool.or_eq_true, Bool.and_eq_true, Bool.or_eq_true, beq_iff_eq, beq_iff_eq] at h
  rcases h with hplain | ⟨_, rfl | rfl⟩
  · exact isPlain_of_isAlphanum hplain
  · exact ⟨by decide, by decide, by decide⟩
  · exact ⟨by decide, by decide, by decide⟩

theorem decodePair_encodePair (leaf : List String × String) :
    decodePair (encodePair bareBrackets leaf) = (keyText leaf.1, leaf.2.toList) := by
  have hkey : '=' ∉ Percent.encode (staysInKey bareBrackets) (keyText leaf.1) :=
    not_mem_encode (by cases bareBrackets <;> decide) (by decide) (by decide) _
  rw [decodePair, encodePair, cutAt_append hkey]
  simp only [Option.getD_some]
  rw [decodePart_encode fun _ => isPlain_of_staysInKey bareBrackets,
    decodePart_encode fun _ => isPlain_of_isAlphanum]

/-- A mark that separates pairs or stands before them does not occur in a pair. -/
theorem not_mem_encodePair {mark : Char} (hmark : mark = '&' ∨ mark = '?')
    (leaf : List String × String) : mark ∉ encodePair bareBrackets leaf := by
  intro hmem
  rcases List.mem_append.mp hmem with hkey | hrest
  · refine not_mem_encode ?_ ?_ ?_ _ hkey
    all_goals rcases hmark with rfl | rfl
    · cases bareBrackets <;> decide
    · cases bareBrackets <;> decide
    all_goals decide
  · rcases List.mem_cons.mp hrest with heq | hvalue
    · rcases hmark with rfl | rfl <;> cases heq
    · refine not_mem_encode ?_ ?_ ?_ _ hvalue
      all_goals rcases hmark with rfl | rfl
      all_goals decide

theorem not_mem_intercalate {c mark : Char} (hne : c ≠ mark) {parts : List (List Char)}
    (h : ∀ part ∈ parts, c ∉ part) : c ∉ [mark].intercalate parts := by
  induction parts with
  | nil => exact List.not_mem_nil
  | cons part rest ih =>
    have hpart := h part List.mem_cons_self
    have hrest := ih fun other hother => h other (List.mem_cons_of_mem _ hother)
    cases rest with
    | nil => rwa [List.intercalate_singleton]
    | cons next rest =>
      rw [List.intercalate_cons_cons, List.append_assoc, List.mem_append, List.mem_append,
        List.mem_singleton]
      exact fun hmem => hmem.elim hpart fun hmem => hmem.elim hne hrest

/-- Question marks in front of a written query string are dropped, and no others. -/
theorem dropWhile_encode (params : List (String × Param)) (marks : Nat) :
    (String.ofList (List.replicate marks '?') ++ encode bareBrackets params).toList.dropWhile
      (· == '?') = ['&'].intercalate ((entryLeaves params).map (encodePair bareBrackets)) := by
  have hmark : '?' ∉ ['&'].intercalate ((entryLeaves params).map (encodePair bareBrackets)) := by
    refine not_mem_intercalate (by decide) fun part hpart => ?_
    obtain ⟨leaf, _, rfl⟩ := List.mem_map.mp hpart
    exact not_mem_encodePair bareBrackets (.inr rfl) leaf
  rw [String.toList_append, String.toList_ofList, encode, String.toList_ofList,
    List.dropWhile_append_of_pos fun c hc => by simp [List.eq_of_mem_replicate hc]]
  refine List.dropWhile_eq_self_iff.mpr fun hpos hfirst => hmark ?_
  rw [← beq_iff_eq.mp hfirst]
  exact List.getElem_mem hpos

/-- The pairs of a written query string, with question marks in front of it. -/
theorem decodePairs_encode (params : List (String × Param)) (marks : Nat) :
    decodePairs (String.ofList (List.replicate marks '?') ++ encode bareBrackets params) =
      (entryLeaves params).map fun leaf => (keyText leaf.1, leaf.2.toList) := by
  rw [decodePairs, dropWhile_encode]
  by_cases hne : entryLeaves params = []
  · rw [hne]
    rfl
  · have hparts : (entryLeaves params).map (encodePair bareBrackets) ≠ [] := by simpa using hne
    have hcut : ∀ part ∈ (entryLeaves params).map (encodePair bareBrackets), ∀ c ∈ part,
        (c == '&') = false := by
      intro part hpart c hc
      obtain ⟨leaf, _, rfl⟩ := List.mem_map.mp hpart
      rw [beq_eq_false_iff_ne]
      rintro rfl
      exact not_mem_encodePair bareBrackets (.inl rfl) leaf hc
    have hfilled : ∀ part ∈ (entryLeaves params).map (encodePair bareBrackets),
        (!part.isEmpty) = true := by
      intro part hpart
      obtain ⟨leaf, _, rfl⟩ := List.mem_map.mp hpart
      simp [encodePair]
    rw [pieces_intercalate hparts hcut rfl, List.filter_eq_self.mpr hfilled, List.map_map]
    exact List.map_congr_left fun leaf _ => decodePair_encodePair bareBrackets leaf

/-- Decoded pairs as parameters that are texts. -/
def textParams (pairs : List (List Char × List Char)) : List (String × Param) :=
  pairs.map fun pair => (String.ofList pair.1, .text (String.ofList pair.2))

theorem entryLeaves_textParams (pairs : List (List Char × List Char)) :
    entryLeaves (textParams pairs) =
      pairs.map fun pair => ([String.ofList pair.1], String.ofList pair.2) := by
  induction pairs with
  | nil => rfl
  | cons pair rest ih =>
    rw [textParams] at ih
    rw [textParams, List.map_cons, entryLeaves, Param.leaves, ih]
    rfl

/-- Every list of pairs is that of a query string. -/
theorem exists_decodePairs_eq (pairs : List (List Char × List Char)) :
    ∃ query, decodePairs query = pairs := by
  have hpairs : ∀ pair ∈ pairs,
      (keyText [String.ofList pair.1], (String.ofList pair.2).toList) = pair := by
    intro pair _
    simp [keyText]
  refine ⟨_, (decodePairs_encode false (textParams pairs) 0).trans ?_⟩
  rw [entryLeaves_textParams, List.map_map]
  exact (List.map_congr_left hpairs).trans (List.map_id _)

/-! ## Whole query strings -/

theorem noBrackets_of_isName {name : String} (h : isName name = true) : NoBrackets name := by
  simp only [isName, Bool.and_eq_true, Bool.not_eq_true', List.contains_eq_mem,
    decide_eq_false_iff_not] at h
  exact ⟨h.1.2, h.2⟩

mutual

/-- The names that lead to a text in a writable parameter are without brackets. -/
theorem noBrackets_of_mem_leaves : ∀ {param : Param}, param.isWritable = true →
    ∀ leaf ∈ param.leaves, ∀ part ∈ leaf.1, NoBrackets part
  | .text s, _, leaf, hleaf, part, hpart => by
    rw [Param.leaves, List.mem_singleton] at hleaf
    rw [hleaf] at hpart
    exact absurd hpart List.not_mem_nil
  | .list items, _, leaf, hleaf, part, hpart => by
    rw [Param.leaves] at hleaf
    obtain ⟨item, _, rfl⟩ := List.mem_map.mp hleaf
    rw [List.mem_singleton.mp hpart]
    exact ⟨List.not_mem_nil, List.not_mem_nil⟩
  | .map entries, h, leaf, hleaf, part, hpart => by
    rw [Param.isWritable, Bool.and_eq_true] at h
    rw [Param.leaves] at hleaf
    exact noBrackets_of_mem_entryLeaves h.2 leaf hleaf part hpart

/-- The names that lead to a text in writable entries are without brackets. -/
theorem noBrackets_of_mem_entryLeaves : ∀ {entries : List (String × Param)},
    areWritable entries = true →
    ∀ leaf ∈ entryLeaves entries, ∀ part ∈ leaf.1, NoBrackets part
  | [], _, leaf, hleaf, _, _ => by
    rw [entryLeaves] at hleaf
    exact absurd hleaf List.not_mem_nil
  | (name, param) :: rest, h, leaf, hleaf, part, hpart => by
    obtain ⟨hname, _, hparam, hrest⟩ := areWritable_cons h
    rw [entryLeaves] at hleaf
    rcases List.mem_append.mp hleaf with hfirst | hothers
    · obtain ⟨below, hbelow, rfl⟩ := List.mem_map.mp hfirst
      rcases List.mem_cons.mp hpart with rfl | hpart
      · exact noBrackets_of_isName hname
      · exact noBrackets_of_mem_leaves hparam below hbelow part hpart
    · exact noBrackets_of_mem_entryLeaves hrest leaf hothers part hpart

end

/-- A decoded pair is put where its leaf belongs. -/
theorem assignPair_keyText {leaf : List String × String}
    (h : ∀ part ∈ leaf.1, NoBrackets part) (hne : leaf.1 ≠ []) (params : List (String × Param)) :
    assignPair params (keyText leaf.1, leaf.2.toList) = assignLeaf params leaf := by
  obtain ⟨path, value⟩ := leaf
  obtain ⟨name, below, rfl⟩ := List.exists_cons_of_ne_nil hne
  rw [assignPair, ofKey_keyText h]
  show assign name (String.ofList value.toList) below params = _
  rw [String.ofList_toList]
  rfl

theorem ofQuery_replicate_encode {params : List (String × Param)}
    (h : areWritable params = true) (marks : Nat) :
    ofQuery (String.ofList (List.replicate marks '?') ++ encode bareBrackets params) = params := by
  have hassign : ∀ built, ∀ leaf ∈ entryLeaves params,
      assignPair built (keyText leaf.1, leaf.2.toList) = assignLeaf built leaf := by
    intro built leaf hleaf
    obtain ⟨name, below, hpath, _⟩ := leadsInward_of_mem_entryLeaves h leaf hleaf
    exact assignPair_keyText (noBrackets_of_mem_entryLeaves h leaf hleaf)
      (hpath ▸ List.cons_ne_nil name below) built
  rw [ofQuery, decodePairs_encode, List.foldl_map, List.foldl_ext _ assignLeaf [] hassign,
    foldl_assignLeaf_entryLeaves h fun _ _ => rfl, List.nil_append]

/-- Parameters that can be written are what their query string is read as, with or without a
question mark in front of it.  The order of the names at every level and of the items of every list
is kept. -/
theorem ofQuery_encode {params : List (String × Param)} (h : areWritable params = true) :
    ofQuery (encode bareBrackets params) = params ∧
      ofQuery ("?" ++ encode bareBrackets params) = params :=
  ⟨by simpa using ofQuery_replicate_encode bareBrackets h 0,
    ofQuery_replicate_encode bareBrackets h 1⟩

/-- Parameters with a free text, a list and a map two levels deep. -/
def groupedParams : List (String × Param) :=
  [("s", .text "id desc"),
    ("g", .map
      [("1", .map [("title_cont", .text "a&b=c?"), ("title_present", .text "")]),
        ("0", .map [("id_in", .list ["1", "", "ž% 2"])])]),
    ("naïve key", .text "[x]")]

/-- An instance of `ofQuery_encode`. -/
theorem ofQuery_encode_groupedParams :
    areWritable groupedParams = true ∧
      ofQuery (encode true groupedParams) = groupedParams ∧
      ofQuery ("?" ++ encode true groupedParams) = groupedParams :=
  ⟨by decide +kernel, ofQuery_encode true (by decide +kernel)⟩

end SearchFilter.QueryString
