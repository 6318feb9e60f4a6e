import SearchFilter.Json.Printer
import SearchFilter.Json.Reader
import SearchFilter.Proofs.Json.Doubles
import SearchFilter.Proofs.Json.Strings
import SearchFilter.Proofs.Results

/-!
# JSON text is read as it was written

`parse_render` is the result: what `parse` reads from the text that `render` wrote, in every layout,
is the value itself in the form that JSON can tell apart.  `reread` is that form: dates, moments and
field types are texts, tuples are lists, and the keys of maps are texts.

The readers get a bound on how far they may go, so the induction carries one: a value is read
whenever the bound is at least the length of its text, the items of a container whenever it is
greater than the length of theirs (`reads_renderAt`, `readsItems_renderItems`,
`readsMembers_renderEntries`).  What follows the value is left; it must not continue a number.
-/

namespace SearchFilter

open SearchFilter.Number

/-! ## Doubles in values -/

namespace Value

mutual

/-- Whether all doubles in a value belong to the format. -/
def inFormat : Value → Bool
  | float x => x.inFormat
  | list items => allInFormat items
  | tuple items => allInFormat items
  | map entries => entriesInFormat entries
  | _ => true

/-- Whether all doubles in a list belong to the format. -/
def allInFormat : List Value → Bool
  | [] => true
  | item :: items => inFormat item && allInFormat items

/-- Whether all doubles in the values of a map belong to the format. -/
def entriesInFormat : List (Value × Value) → Bool
  | [] => true
  | (_, value) :: entries => inFormat value && entriesInFormat entries

end

end Value

namespace Json

/-! ## The form in which a value is read again -/

/-- What the text of a double is read as. -/
def rereadDouble (x : Binary64) : Value :=
  match readScalar (double x).toList with
  | .ok (value, _) => value
  | .error _ => .null

/-- The text of a key, empty for the keys that JSON does not admit. -/
def keyName (key : Value) : String :=
  match keyText key with
  | .ok name => name
  | .error _ => ""

mutual

/-- What the JSON text of a value is read as. -/
def reread : Value → Value
  | .float x => rereadDouble x
  | .list items => .list (rereadItems items)
  | .tuple items => .list (rereadItems items)
  | .map entries => .mapOf (rereadEntries entries)
  | .date d => .text d.isoText
  | .datetime t => .text t.isoText
  | .fieldType kind => .text kind.name
  | value => value

/-- What the JSON texts of several values are read as. -/
def rereadItems : List Value → List Value
  | [] => []
  | item :: items => reread item :: rereadItems items

/-- What the JSON text of the entries of a map is read as. -/
def rereadEntries : List (Value × Value) → List (Value × Value)
  | [] => []
  | (key, value) :: entries => (.text (keyName key), reread value) :: rereadEntries entries

end

theorem readScalar_double {x : Binary64} (h : x.inFormat = true) {rest : List Char}
    (hrest : EndsNumber rest) :
    readScalar ((double x).toList ++ rest) = .ok (rereadDouble x, rest) := by
  obtain ⟨y, hy⟩ := exists_readScalar_double h
  have halone := hy [] (by rintro _ ⟨⟩)
  rw [List.append_nil] at halone
  rw [hy rest hrest, rereadDouble, halone]

/-! ## Space -/

/-- Space, and nothing else. -/
def IsGap (gap : List Char) : Prop :=
  ∀ c ∈ gap, isSpace c = true

theorem isGap_nil : IsGap [] :=
  fun _ h => absurd h List.not_mem_nil

theorem skipSpace_gap {gap : List Char} (hgap : IsGap gap) {c : Char} (hc : isSpace c = false)
    (rest : List Char) : skipSpace (gap ++ c :: rest) = c :: rest := by
  rw [skipSpace, List.dropWhile_append_of_pos hgap, List.dropWhile_cons_of_neg (by simp [hc])]

theorem skipSpace_cons {c : Char} (hc : isSpace c = false) (rest : List Char) :
    skipSpace (c :: rest) = c :: rest :=
  skipSpace_gap isGap_nil hc rest

theorem endsNumber_gap {gap : List Char} (hgap : IsGap gap) {c : Char}
    (hc : c = ',' ∨ c = ']' ∨ c = '\x7d') (rest : List Char) : EndsNumber (gap ++ c :: rest) := by
  intro d hd
  have hspace : ∀ d, isSpace d = true →
      Text.isAsciiDigit d = false ∧ d ≠ '.' ∧ d ≠ 'e' ∧ d ≠ 'E' := by
    intro d hd
    simp only [isSpace, Bool.or_eq_true, beq_iff_eq] at hd
    rcases hd with ((rfl | rfl) | rfl) | rfl <;> decide
  cases gap with
  | nil =>
    cases hd
    rcases hc with rfl | rfl | rfl <;> decide
  | cons e gap =>
    rw [List.cons_append, List.head?_cons, Option.mem_some_iff] at hd
    exact hd ▸ hspace e (hgap e List.mem_cons_self)

/-! ## Where a value begins -/

/-- Characters with which no value begins. -/
def noBeginnings : List Char :=
  [' ', '\t', '\n', '\r', ']', '\uFEFF']

theorem readValue_of_mem_noBeginnings {c : Char} (h : c ∈ noBeginnings) (bound : Nat)
    (rest : List Char) : readValue bound (c :: rest) = .error .malformedJson := by
  cases bound with
  | zero => rfl
  | succ bound =>
    simp only [noBeginnings, List.mem_cons, List.not_mem_nil, or_false] at h
    rcases h with rfl | rfl | rfl | rfl | rfl | rfl <;> rfl

/-- What is read as a value begins neither with space nor with what closes a list, and with no byte
order mark. -/
theorem exists_cons_of_readValue {bound : Nat} {cs : List Char} {result : Value × List Char}
    (h : readValue bound cs = .ok result) :
    ∃ c rest, cs = c :: rest ∧ isSpace c = false ∧ c ≠ ']' ∧ c ≠ '\uFEFF' := by
  cases cs with
  | nil => cases bound <;> cases h
  | cons c rest =>
    have hc : c ∉ noBeginnings := fun hmem => by
      rw [readValue_of_mem_noBeginnings hmem] at h
      cases h
    simp only [noBeginnings, List.mem_cons, List.not_mem_nil, or_false, not_or] at hc
    refine ⟨c, rest, rfl, ?_, hc.2.2.2.2.1, hc.2.2.2.2.2⟩
    simp [isSpace, hc]

/-! ## Scalars -/

/-- A text is read as a value, with any bound that is not below its length. -/
def Reads (value : Value) (text : String) : Prop :=
  ∀ bound rest, text.toList.length ≤ bound → EndsNumber rest →
    readValue bound (text.toList ++ rest) = .ok (value, rest)

/-- What is read as a scalar is read as a value. -/
theorem readValue_of_readScalar {cs : List Char} {result : Value × List Char}
    (h : readScalar cs = .ok result) (bound : Nat) : readValue (bound + 1) cs = .ok result := by
  rw [readValue.eq_def]
  dsimp only
  split
  · cases h
  · cases h
  · cases h
  · exact h

theorem readScalar_null (rest : List Char) :
    readScalar ("null".toList ++ rest) = .ok (.null, rest) :=
  rfl

theorem readScalar_truth (b : Bool) (rest : List Char) :
    readScalar ((truth b).toList ++ rest) = .ok (.bool b, rest) := by
  cases b <;> rfl

theorem reads_of_readScalar {value : Value} {text : String}
    (h : ∀ rest, EndsNumber rest → readScalar (text.toList ++ rest) = .ok (value, rest)) :
    Reads value text := by
  intro bound rest hbound hrest
  have hne : text.toList ≠ [] := by
    intro hempty
    rw [hempty] at h
    cases h [] (by rintro _ ⟨⟩)
  obtain ⟨bound, rfl⟩ := Nat.exists_eq_add_of_le' ((List.length_pos_of_ne_nil hne).trans_le hbound)
  exact readValue_of_readScalar (h rest hrest) bound

theorem reads_string (s : String) : Reads (.text s) (string s) := by
  intro bound rest hbound _
  rw [toList_string] at *
  obtain ⟨bound, rfl⟩ := Nat.exists_eq_add_of_le' ((Nat.succ_pos _).trans_le hbound)
  rw [List.cons_append, List.append_assoc, List.singleton_append, readValue,
    readString_flatMap_escapeChar]
  dsimp only
  rw [String.ofList_toList]

/-! ## Containers -/

/-- The items of a container as they are written, with a gap after each comma. -/
def joined (gap : List Char) (texts : List String) : List Char :=
  (',' :: gap).intercalate (texts.map String.toList)

theorem joined_singleton (gap : List Char) (text : String) : joined gap [text] = text.toList := by
  rw [joined, List.map_singleton, List.intercalate_singleton]

theorem joined_cons_cons (gap : List Char) (text next : String) (texts : List String) :
    joined gap (text :: next :: texts) =
      text.toList ++ ',' :: (gap ++ joined gap (next :: texts)) := by
  rw [joined, List.map_cons, List.map_cons, List.intercalate_cons_cons, joined, List.map_cons,
    List.append_assoc, List.cons_append]

theorem isGap_newline (width level : Nat) : IsGap (newline width level).toList := by
  intro c hc
  rw [newline, String.toList_ofList] at hc
  rcases List.mem_cons.mp hc with rfl | hspace
  · rfl
  · rw [List.eq_of_mem_replicate hspace]
    rfl

theorem toList_container_nil (layout : Layout) (level : Nat) (left right : String) :
    (container layout level left right []).toList = left.toList ++ right.toList := by
  simp [container]

/-- The text of a container that is not empty: gaps stand around the items and after the
commas. -/
theorem exists_toList_container (layout : Layout) (level : Nat) {texts : List String}
    (hne : texts ≠ []) :
    ∃ before gap after, IsGap before ∧ IsGap gap ∧ IsGap after ∧
      ∀ {left right : String} (first last : Char), left.toList = [first] → right.toList = [last] →
        (container layout level left right texts).toList =
          first :: (before ++ (joined gap texts ++ (after ++ [last]))) := by
  have hempty : texts.isEmpty = false := List.isEmpty_eq_false_iff.mpr hne
  cases layout with
  | none =>
    refine ⟨[], [' '], [], isGap_nil, by simp [IsGap, isSpace], isGap_nil,
      fun _ _ hleft hright => ?_⟩
    rw [container, hempty]
    simp [joined, String.toList_intercalate, hleft, hright]
  | some width =>
    refine ⟨_, _, _, isGap_newline width (level + 1), isGap_newline width (level + 1),
      isGap_newline width level, fun _ _ hleft hright => ?_⟩
    rw [container, hempty]
    simp [joined, String.toList_intercalate, hleft, hright]

/-! ## Lists -/

section Items

variable {bound : Nat} {cs gap more rest : List Char} {item : Value} {items : List Value}

theorem exists_cons_of_readItems {result : List Value × List Char}
    (h : readItems bound cs = .ok result) :
    ∃ c rest, cs = c :: rest ∧ isSpace c = false ∧ c ≠ ']' := by
  cases bound with
  | zero => cases h
  | succ bound =>
    cases hvalue : readValue bound cs with
    | error e =>
      rw [readItems, hvalue] at h
      cases h
    | ok result =>
      obtain ⟨c, rest, hcs, hspace, hbracket, _⟩ := exists_cons_of_readValue hvalue
      exact ⟨c, rest, hcs, hspace, hbracket⟩

theorem readItems_last (hgap : IsGap gap)
    (h : readValue bound cs = .ok (item, gap ++ ']' :: rest)) :
    readItems (bound + 1) cs = .ok ([item], rest) := by
  rw [readItems, h]
  dsimp only
  rw [skipSpace_gap hgap (by decide)]
  rfl

theorem readItems_more (hgap : IsGap gap)
    (h : readValue bound cs = .ok (item, ',' :: (gap ++ more)))
    (hmore : readItems bound more = .ok (items, rest)) :
    readItems (bound + 1) cs = .ok (item :: items, rest) := by
  obtain ⟨c, after, rfl, hspace, _⟩ := exists_cons_of_readItems hmore
  rw [readItems, h]
  dsimp only
  rw [skipSpace_cons (by decide)]
  split
  · next heq => cases (List.cons.inj heq).1
  · next heq =>
    cases heq
    rw [skipSpace_gap hgap hspace, hmore]
  · next hne => exact absurd rfl (hne _)

theorem readValue_list (hgap : IsGap gap) (h : readItems bound cs = .ok (items, rest)) :
    readValue (bound + 1) ('[' :: (gap ++ cs)) = .ok (.list items, rest) := by
  obtain ⟨c, after, rfl, hspace, hbracket⟩ := exists_cons_of_readItems h
  rw [readValue, skipSpace_gap hgap hspace]
  split
  · next heq => exact absurd (List.cons.inj heq).1 hbracket
  · rw [h]

end Items

/-! ## Maps -/

section Members

variable {bound : Nat} {cs gap more rest : List Char} {value : Value}
  {members : List (Value × Value)}

theorem exists_cons_of_readMembers {result : List (Value × Value) × List Char}
    (h : readMembers bound cs = .ok result) : ∃ rest, cs = '"' :: rest := by
  cases bound with
  | zero => cases h
  | succ bound =>
    rw [readMembers.eq_def] at h
    dsimp only at h
    split at h
    · exact ⟨_, rfl⟩
    · cases h

/-- The name of a member, and what stands between it and its value. -/
def memberName (name : String) (cs : List Char) : List Char :=
  (string name).toList ++ ':' :: ' ' :: cs

theorem readMembers_memberName (name : String) {result : Value × List Char}
    (h : readValue bound cs = .ok result) :
    readMembers (bound + 1) (memberName name cs) =
      match skipSpace result.2 with
      | '\x7d' :: rest => .ok ([(.text name, result.1)], rest)
      | ',' :: rest =>
        match readMembers bound (skipSpace rest) with
        | .ok (members, rest) => .ok ((.text name, result.1) :: members, rest)
        | .error e => .error e
      | _ => .error .malformedJson := by
  obtain ⟨c, after, rfl, hspace, _⟩ := exists_cons_of_readValue h
  have hblank : IsGap [' '] := by simp [IsGap, isSpace]
  have hskip : skipSpace (' ' :: c :: after) = c :: after := skipSpace_gap hblank hspace after
  rw [memberName, toList_string, List.cons_append, List.append_assoc, List.singleton_append,
    readMembers, readString_flatMap_escapeChar]
  dsimp only
  rw [skipSpace_cons (by decide)]
  split
  · next heq =>
    cases heq
    rw [hskip, String.ofList_toList]
    exact h ▸ rfl
  · next hne => exact absurd rfl (hne _)

theorem readMembers_last (name : String) (hgap : IsGap gap)
    (h : readValue bound cs = .ok (value, gap ++ '\x7d' :: rest)) :
    readMembers (bound + 1) (memberName name cs) = .ok ([(.text name, value)], rest) := by
  rw [readMembers_memberName name h, skipSpace_gap hgap (by decide)]
  rfl

theorem readMembers_more (name : String) (hgap : IsGap gap)
    (h : readValue bound cs = .ok (value, ',' :: (gap ++ more)))
    (hmore : readMembers bound more = .ok (members, rest)) :
    readMembers (bound + 1) (memberName name cs) = .ok ((.text name, value) :: members, rest) := by
  obtain ⟨after, rfl⟩ := exists_cons_of_readMembers hmore
  rw [readMembers_memberName name h, skipSpace_cons (by decide)]
  split
  · next heq => cases (List.cons.inj heq).1
  · next heq =>
    cases heq
    rw [skipSpace_gap hgap (by decide), hmore]
  · next hne => exact absurd rfl (hne _)

theorem readValue_map (hgap : IsGap gap) (h : readMembers bound cs = .ok (members, rest)) :
    readValue (bound + 1) ('\x7b' :: (gap ++ cs)) = .ok (.mapOf members, rest) := by
  obtain ⟨after, rfl⟩ := exists_cons_of_readMembers h
  rw [readValue, skipSpace_gap hgap (by decide)]
  split
  · next heq => cases (List.cons.inj heq).1
  · rw [h]

end Members

/-! ## All values -/

variable {layout : Layout} {level : Nat}

theorem renderItems_cons {item : Value} {items : List Value} {texts : List String}
    (h : renderItems layout level (item :: items) = .ok texts) :
    ∃ text rest, renderAt layout level item = .ok text ∧
      renderItems layout level items = .ok rest ∧ texts = text :: rest := by
  rw [renderItems] at h
  split at h
  · next text rest htext hrest =>
    cases h
    exact ⟨text, rest, htext, hrest, rfl⟩
  · cases h
  · cases h

theorem renderEntries_cons {key value : Value} {entries : List (Value × Value)}
    {texts : List String}
    (h : renderEntries layout level ((key, value) :: entries) = .ok texts) :
    ∃ text rest, keyText key = .ok (keyName key) ∧ renderAt layout level value = .ok text ∧
      renderEntries layout level entries = .ok rest ∧
      texts = (string (keyName key) ++ ": " ++ text) :: rest := by
  rw [renderEntries] at h
  split at h
  · next name text rest hname htext hrest =>
    cases h
    have hkey : keyName key = name := by rw [keyName, hname]
    exact ⟨text, rest, by rw [hkey, hname], htext, hrest, by rw [hkey]⟩
  · cases h
  · cases h
  · cases h

/-- Texts are read as the items of a list, with any bound above the length of all. -/
def ReadsItems (items : List Value) (texts : List String) : Prop :=
  ∀ gap after bound rest, IsGap gap → IsGap after → (joined gap texts).length < bound →
    readItems bound (joined gap texts ++ (after ++ ']' :: rest)) = .ok (items, rest)

/-- Texts are read as the members of a map, with any bound above the length of all. -/
def ReadsMembers (members : List (Value × Value)) (texts : List String) : Prop :=
  ∀ gap after bound rest, IsGap gap → IsGap after → (joined gap texts).length < bound →
    readMembers bound (joined gap texts ++ (after ++ '\x7d' :: rest)) = .ok (members, rest)

/-! ## Scalars in their places -/

section Scalars

variable {text : String}

theorem reads_null (h : renderAt layout level .null = .ok text) : Reads .null text := by
  rw [renderAt] at h
  cases h
  exact reads_of_readScalar fun rest _ => readScalar_null rest

theorem reads_bool {b : Bool} (h : renderAt layout level (.bool b) = .ok text) :
    Reads (.bool b) text := by
  rw [renderAt] at h
  cases h
  exact reads_of_readScalar fun rest _ => readScalar_truth b rest

theorem reads_int {n : Int} (h : renderAt layout level (.int n) = .ok text) :
    Reads (.int n) text := by
  rw [renderAt] at h
  exact reads_of_readScalar fun _ => readScalar_writtenNumeral h

theorem reads_float {x : Binary64} (hformat : x.inFormat = true)
    (h : renderAt layout level (.float x) = .ok text) : Reads (rereadDouble x) text := by
  rw [renderAt] at h
  cases h
  exact reads_of_readScalar fun _ => readScalar_double hformat

end Scalars

/-! ## Containers in their places -/

section Lists

variable {item : Value} {items : List Value} {text next : String} {texts : List String}

theorem readsItems_singleton (h : Reads item text) : ReadsItems [item] [text] := by
  intro gap after bound rest _ hafter hbound
  rw [joined_singleton] at *
  obtain ⟨bound, rfl⟩ := Nat.exists_eq_add_of_le' ((Nat.succ_pos _).trans_le hbound)
  exact readItems_last hafter
    (h bound _ (Nat.le_of_lt_succ hbound) (endsNumber_gap hafter (.inr (.inl rfl)) rest))

theorem readsItems_cons (h : Reads item text) (hmore : ReadsItems items (next :: texts)) :
    ReadsItems (item :: items) (text :: next :: texts) := by
  intro gap after bound rest hgap hafter hbound
  rw [joined_cons_cons, List.length_append, List.length_cons, List.length_append] at hbound
  rw [joined_cons_cons, List.append_assoc, List.cons_append, List.append_assoc]
  obtain ⟨bound, rfl⟩ := Nat.exists_eq_add_of_le' ((Nat.succ_pos _).trans_le hbound)
  refine readItems_more hgap (h bound _ (by omega) ?_)
    (hmore gap after bound rest hgap hafter (by omega))
  exact endsNumber_gap isGap_nil (.inl rfl) _

theorem reads_list (h : texts ≠ [] → ReadsItems items texts) (hempty : texts = [] → items = []) :
    Reads (.list items) (container layout level "[" "]" texts) := by
  intro bound rest hbound _
  by_cases hne : texts = []
  · rw [hempty hne]
    rw [hne, toList_container_nil] at hbound ⊢
    obtain ⟨bound, rfl⟩ := Nat.exists_eq_add_of_le' ((Nat.succ_pos 1).trans_le hbound)
    rfl
  · obtain ⟨before, gap, after, hbefore, hgap, hafter, htext⟩ :=
      exists_toList_container layout level hne
    rw [htext '[' ']' rfl rfl] at *
    obtain ⟨bound, rfl⟩ := Nat.exists_eq_add_of_le' ((Nat.succ_pos _).trans_le hbound)
    simp only [List.length_append, List.length_cons, List.length_nil] at hbound
    have hitems := h hne gap after bound rest hgap hafter (by omega)
    simpa using readValue_list hbefore hitems

end Lists

section Maps

variable {value : Value} {members : List (Value × Value)} {text next : String}
  {texts : List String}

theorem toList_member (name text : String) (rest : List Char) :
    (string name ++ ": " ++ text).toList ++ rest = memberName name (text.toList ++ rest) := by
  simp [memberName]

/-- The name and the colon are longer than the quotes of the name. -/
theorem length_member (name text : String) :
    text.toList.length + 4 ≤ (string name ++ ": " ++ text).toList.length := by
  simp [toList_string]

theorem readsMembers_singleton (name : String) (h : Reads value text) :
    ReadsMembers [(.text name, value)] [string name ++ ": " ++ text] := by
  intro gap after bound rest _ hafter hbound
  have hlength := length_member name text
  rw [joined_singleton] at *
  obtain ⟨bound, rfl⟩ := Nat.exists_eq_add_of_le' ((Nat.succ_pos _).trans_le hbound)
  rw [toList_member]
  exact readMembers_last name hafter
    (h bound _ (by omega) (endsNumber_gap hafter (.inr (.inr rfl)) rest))

theorem readsMembers_cons (name : String) (h : Reads value text)
    (hmore : ReadsMembers members (next :: texts)) :
    ReadsMembers ((.text name, value) :: members)
      ((string name ++ ": " ++ text) :: next :: texts) := by
  intro gap after bound rest hgap hafter hbound
  have hlength := length_member name text
  rw [joined_cons_cons, List.length_append, List.length_cons, List.length_append] at hbound
  rw [joined_cons_cons, List.append_assoc, List.cons_append, List.append_assoc, toList_member]
  obtain ⟨bound, rfl⟩ := Nat.exists_eq_add_of_le' ((Nat.succ_pos _).trans_le hbound)
  refine readMembers_more name hgap (h bound _ (by omega) ?_)
    (hmore gap after bound rest hgap hafter (by omega))
  exact endsNumber_gap isGap_nil (.inl rfl) _

theorem reads_map (h : texts ≠ [] → ReadsMembers members texts)
    (hempty : texts = [] → members = []) :
    Reads (.mapOf members) (container layout level "\x7b" "\x7d" texts) := by
  intro bound rest hbound _
  by_cases hne : texts = []
  · rw [hempty hne]
    rw [hne, toList_container_nil] at hbound ⊢
    obtain ⟨bound, rfl⟩ := Nat.exists_eq_add_of_le' ((Nat.succ_pos 1).trans_le hbound)
    rfl
  · obtain ⟨before, gap, after, hbefore, hgap, hafter, htext⟩ :=
      exists_toList_container layout level hne
    rw [htext '\x7b' '\x7d' rfl rfl] at *
    obtain ⟨bound, rfl⟩ := Nat.exists_eq_add_of_le' ((Nat.succ_pos _).trans_le hbound)
    simp only [List.length_append, List.length_cons, List.length_nil] at hbound
    have hmembers := h hne gap after bound rest hgap hafter (by omega)
    simpa using readValue_map hbefore hmembers

end Maps

/-! ## All values -/

mutual

/-- A value is read as it was written. -/
theorem reads_renderAt : ∀ {value : Value} {level : Nat} {text : String},
    value.inFormat = true → renderAt layout level value = .ok text → Reads (reread value) text
  | .null, _, _, _, h => reads_null h
  | .bool _, _, _, _, h => reads_bool h
  | .int _, _, _, _, h => reads_int h
  | .float _, _, _, hformat, h => reads_float hformat h
  | .text s, _, _, _, h => by
    rw [renderAt] at h
    rw [← Except.ok.inj h]
    exact reads_string s
  | .date d, _, _, _, h => by
    rw [renderAt] at h
    rw [← Except.ok.inj h]
    exact reads_string d.isoText
  | .datetime t, _, _, _, h => by
    rw [renderAt] at h
    rw [← Except.ok.inj h]
    exact reads_string t.isoText
  | .fieldType kind, _, _, _, h => by
    rw [renderAt] at h
    rw [← Except.ok.inj h]
    exact reads_string kind.name
  | .list items, _, _, hformat, h => by
    rw [Value.inFormat] at hformat
    rw [renderAt] at h
    obtain ⟨texts, htexts, rfl⟩ := map_eq_ok h
    obtain ⟨hempty, hitems⟩ := readsItems_renderItems hformat htexts
    exact reads_list hitems hempty
  | .tuple items, _, _, hformat, h => by
    rw [Value.inFormat] at hformat
    rw [renderAt] at h
    obtain ⟨texts, htexts, rfl⟩ := map_eq_ok h
    obtain ⟨hempty, hitems⟩ := readsItems_renderItems hformat htexts
    exact reads_list hitems hempty
  | .map entries, _, _, hformat, h => by
    rw [Value.inFormat] at hformat
    rw [renderAt] at h
    obtain ⟨texts, htexts, rfl⟩ := map_eq_ok h
    obtain ⟨hempty, hmembers⟩ := readsMembers_renderEntries hformat htexts
    exact reads_map hmembers hempty
  | .set _, _, _, _, h => by
    rw [renderAt] at h
    cases h
  | .constant _ _, _, _, _, h => by
    rw [renderAt] at h
    cases h
  | .type _, _, _, _, h => by
    rw [renderAt] at h
    cases h

/-- The items of a list are read as they were written. -/
theorem readsItems_renderItems : ∀ {items : List Value} {level : Nat} {texts : List String},
    Value.allInFormat items = true → renderItems layout level items = .ok texts →
    (texts = [] → rereadItems items = []) ∧
      (texts ≠ [] → ReadsItems (rereadItems items) texts)
  | [], _, _, _, h => by
    rw [renderItems] at h
    cases h
    exact ⟨fun _ => rfl, fun hne => absurd rfl hne⟩
  | item :: items, _, _, hformat, h => by
    rw [Value.allInFormat, Bool.and_eq_true] at hformat
    obtain ⟨text, texts, htext, htexts, rfl⟩ := renderItems_cons h
    have hfirst := reads_renderAt hformat.1 htext
    obtain ⟨hempty, hmore⟩ := readsItems_renderItems hformat.2 htexts
    refine ⟨fun hnil => absurd hnil (List.cons_ne_nil _ _), fun _ => ?_⟩
    rw [rereadItems]
    cases texts with
    | nil =>
      rw [hempty rfl]
      exact readsItems_singleton hfirst
    | cons next texts => exact readsItems_cons hfirst (hmore (List.cons_ne_nil _ _))

/-- The members of a map are read as they were written. -/
theorem readsMembers_renderEntries : ∀ {entries : List (Value × Value)} {level : Nat}
    {texts : List String}, Value.entriesInFormat entries = true →
    renderEntries layout level entries = .ok texts →
    (texts = [] → rereadEntries entries = []) ∧
      (texts ≠ [] → ReadsMembers (rereadEntries entries) texts)
  | [], _, _, _, h => by
    rw [renderEntries] at h
    cases h
    exact ⟨fun _ => rfl, fun hne => absurd rfl hne⟩
  | (key, value) :: entries, _, _, hformat, h => by
    rw [Value.entriesInFormat, Bool.and_eq_true] at hformat
    obtain ⟨text, texts, _, htext, htexts, rfl⟩ := renderEntries_cons h
    have hfirst := reads_renderAt hformat.1 htext
    obtain ⟨hempty, hmore⟩ := readsMembers_renderEntries hformat.2 htexts
    refine ⟨fun hnil => absurd hnil (List.cons_ne_nil _ _), fun _ => ?_⟩
    rw [rereadEntries]
    cases texts with
    | nil =>
      rw [hempty rfl]
      exact readsMembers_singleton _ hfirst
    | cons next texts => exact readsMembers_cons _ hfirst (hmore (List.cons_ne_nil _ _))

end

/-- What `parse` reads from the text of a value is the value, in the form in which JSON can tell
values apart. -/
theorem parse_render {value : Value} (hformat : value.inFormat = true) {text : String}
    (h : render layout value = .ok text) : parse text = .ok (reread value) := by
  have hread := reads_renderAt hformat h (text.toList.length + 1) [] (Nat.le_succ _)
    (by rintro _ ⟨⟩)
  rw [List.append_nil] at hread
  obtain ⟨c, rest, htext, hspace, _, hmark⟩ := exists_cons_of_readValue hread
  rw [htext] at hread
  unfold parse
  rw [htext]
  extract_lets cs
  have hcs : cs = c :: rest := by
    unfold cs
    split
    · next heq => exact absurd (List.cons.inj heq).1 hmark
    · rfl
  rw [hcs, skipSpace_cons hspace, hread]
  rfl

end Json

end SearchFilter
