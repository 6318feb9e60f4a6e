import SearchFilter.Proofs.Schema
import SearchFilter.Proofs.Text.Split

/-!
# Index mappings

The properties of an index mapping are a forest of fields (`Fields`): every field has a name, a type
or none, and fields below it.  `DeclaredBy` says when properties declare a forest.

Flattening a mapping lists the fields that have a type, in pre-order and under the names that lead
to them (`Fields.typed`), joined by dots: `flattenMapping_eq_typed`.  Nothing is overwritten on the
way, because names without dots can be told apart when they are joined (`nodup_entries`).
`declareAll_eq` is the induction; what it carries along are the declarations made so far.
-/

namespace SearchFilter

open Value (field?)

/-! ## Forests of fields -/

/-- The fields on one level of a mapping: a field with its type, if it has one, and with the fields
below it, and then the fields after it. -/
inductive Fields where
  | empty
  | field (name : String) (type : Option String) (below after : Fields)

namespace Fields

/-- The names of the fields on the first level. -/
def names : Fields → List String
  | empty => []
  | field name _ _ after => name :: after.names

/-- The types of the fields that have one, in pre-order, each with the names that lead to it. -/
def typed : Fields → List (List String × String)
  | empty => []
  | field name type below after =>
    type.toList.map (fun type => ([name], type)) ++
      below.typed.map (fun entry => (name :: entry.1, entry.2)) ++ after.typed

/-- Properties declare a forest of fields.  The definition of a field is a map with the type of the
field, if it has one, with properties that declare the fields below it, if there are any, and with
other attributes, but without mappings of its own.  Names are different and have no dot. -/
inductive DeclaredBy : Fields → List (Value × Value) → Prop
  | empty : DeclaredBy .empty []
  | field {name : String} {type : Option String} {below after : Fields}
      {attributes rest : List (Value × Value)} {properties : Option (List (Value × Value))}
      (hname : '.' ∉ name.toList) (hnew : name ∉ after.names)
      (hmappings : field? "mappings" attributes = none)
      (htype : field? "type" attributes = type.map .text)
      (hproperties : field? "properties" attributes = properties.map .map)
      (hbelow : DeclaredBy below (properties.getD [])) (hafter : DeclaredBy after rest) :
      DeclaredBy (.field name type below after) ((.text name, .map attributes) :: rest)

/-! ## Paths -/

variable {fields : Fields} {properties : List (Value × Value)}

/-- The names that lead to a typed field begin on the first level. -/
theorem exists_of_mem_typed {entry : List String × String} (h : entry ∈ fields.typed) :
    ∃ name rest, entry.1 = name :: rest ∧ name ∈ fields.names := by
  induction fields with
  | empty => cases h
  | field name type below after _ ih =>
    rw [typed, List.append_assoc, List.mem_append, List.mem_append] at h
    rcases h with hown | hbelow | hafter
    · obtain ⟨_, _, rfl⟩ := List.mem_map.mp hown
      exact ⟨name, [], rfl, List.mem_cons_self⟩
    · obtain ⟨inner, _, rfl⟩ := List.mem_map.mp hbelow
      exact ⟨name, inner.1, rfl, List.mem_cons_self⟩
    · obtain ⟨first, rest, hpath, hfirst⟩ := ih hafter
      exact ⟨first, rest, hpath, List.mem_cons_of_mem _ hfirst⟩

theorem ne_nil_of_mem_typed {entry : List String × String} (h : entry ∈ fields.typed) :
    entry.1 ≠ [] := by
  obtain ⟨name, rest, hpath, _⟩ := exists_of_mem_typed h
  rw [hpath]
  exact List.cons_ne_nil name rest

/-- No two typed fields have the same names that lead to them. -/
theorem DeclaredBy.nodup_typed (h : fields.DeclaredBy properties) :
    (fields.typed.map Prod.fst).Nodup := by
  induction h with
  | empty => exact List.nodup_nil
  | @field name type below after _ _ _ _ hnew _ _ _ _ _ ihbelow ihafter =>
    have howns : (type.toList.map fun type => ([name], type)).map Prod.fst =
        type.toList.map fun _ => [name] :=
      List.map_map
    have hbelows : (below.typed.map fun entry => (name :: entry.1, entry.2)).map Prod.fst =
        (below.typed.map Prod.fst).map (name :: ·) := by
      rw [List.map_map, List.map_map]
      rfl
    have hother : ∀ rest, name :: rest ∉ after.typed.map Prod.fst := by
      intro rest hmem
      obtain ⟨entry, hentry, heq⟩ := List.mem_map.mp hmem
      obtain ⟨first, _, hpath, hfirst⟩ := exists_of_mem_typed hentry
      rw [hpath, List.cons.injEq] at heq
      exact hnew (heq.1 ▸ hfirst)
    rw [typed, List.map_append, List.map_append, howns, hbelows]
    refine List.nodup_append.mpr ⟨List.nodup_append.mpr ⟨?_, ?_, ?_⟩, ihafter, ?_⟩
    · cases type <;> simp
    · exact ihbelow.map List.cons_injective
    · -- the field itself stands before those below it, which have longer paths
      rintro _ hown _ hinner rfl
      obtain ⟨_, _, rfl⟩ := List.mem_map.mp hown
      obtain ⟨path, hpath, heq⟩ := List.mem_map.mp hinner
      obtain ⟨entry, hentry, rfl⟩ := List.mem_map.mp hpath
      exact ne_nil_of_mem_typed hentry (List.cons.inj heq).2
    · rintro path hpath _ hlater rfl
      rcases List.mem_append.mp hpath with hown | hinner
      · obtain ⟨_, _, rfl⟩ := List.mem_map.mp hown
        exact hother [] hlater
      · obtain ⟨rest, _, rfl⟩ := List.mem_map.mp hinner
        exact hother rest hlater

/-- No name that leads to a typed field has a dot. -/
theorem DeclaredBy.dot_not_mem (h : fields.DeclaredBy properties) :
    ∀ entry ∈ fields.typed, ∀ name ∈ entry.1, '.' ∉ name.toList := by
  induction h with
  | empty => exact fun entry hentry => absurd hentry List.not_mem_nil
  | @field name type below after _ _ _ hname _ _ _ _ _ _ ihbelow ihafter =>
    intro entry hentry part hpart
    rw [typed, List.append_assoc, List.mem_append, List.mem_append] at hentry
    rcases hentry with hown | hbelow | hafter
    · obtain ⟨_, _, rfl⟩ := List.mem_map.mp hown
      rwa [List.mem_singleton.mp hpart]
    · obtain ⟨inner, hinner, rfl⟩ := List.mem_map.mp hbelow
      rcases List.mem_cons.mp hpart with rfl | hpart
      · exact hname
      · exact ihbelow inner hinner part hpart
    · exact ihafter entry hafter part hpart

/-! ## Declarations -/

/-- The declarations of the typed fields: their names are joined by dots, with `path` in front. -/
def entries (path : String) (fields : Fields) : Schema :=
  fields.typed.map fun entry => (path ++ ".".intercalate entry.1, .text entry.2)

theorem entries_field (path name : String) (type : Option String) (below after : Fields) :
    entries path (.field name type below after) =
      type.toList.map (fun type => (path ++ name, Value.text type)) ++
        entries (path ++ name ++ ".") below ++ entries path after := by
  have hown : ∀ type : String,
      (path ++ ".".intercalate [name], Value.text type) = (path ++ name, .text type) := by
    intro type
    rw [String.intercalate_singleton]
  have hbelow : ∀ entry ∈ below.typed,
      (path ++ ".".intercalate (name :: entry.1), Value.text entry.2) =
        (path ++ name ++ "." ++ ".".intercalate entry.1, .text entry.2) := by
    intro entry hentry
    obtain ⟨next, rest, hpath⟩ := List.exists_cons_of_ne_nil (ne_nil_of_mem_typed hentry)
    rw [hpath, String.intercalate_cons_cons]
    simp only [String.append_assoc]
  rw [entries, typed, List.map_append, List.map_append, List.map_map, List.map_map]
  exact congrArg₂ _ (congrArg₂ _ (List.map_congr_left fun type _ => hown type)
    (List.map_congr_left hbelow)) rfl

/-- Names without dots can be told apart when they are joined by dots. -/
theorem splitOn_dots {names : List String} (hne : names ≠ [])
    (h : ∀ name ∈ names, '.' ∉ name.toList) :
    Text.splitOn "." (".".intercalate names) = names := by
  refine Text.splitOn_intercalate (by decide) hne fun name hname hwithin => h name hname ?_
  have hdot := List.mem_append.mp (hwithin.subset (List.mem_singleton_self '.'))
  exact hdot.resolve_right (by decide)

/-- No declaration overwrites another. -/
theorem DeclaredBy.nodup_entries (h : fields.DeclaredBy properties) (path : String) :
    ((entries path fields).map Prod.fst).Nodup := by
  have hkeys : (entries path fields).map Prod.fst =
      (fields.typed.map Prod.fst).map fun names => path ++ ".".intercalate names := by
    rw [entries, List.map_map, List.map_map]
    rfl
  rw [hkeys]
  refine h.nodup_typed.map_on fun names hnames others hothers heq => ?_
  obtain ⟨entry, hentry, rfl⟩ := List.mem_map.mp hnames
  obtain ⟨other, hother, rfl⟩ := List.mem_map.mp hothers
  have hjoined := congrArg (Text.splitOn ".") ((String.append_right_inj path).mp heq)
  rwa [splitOn_dots (ne_nil_of_mem_typed hentry) (h.dot_not_mem entry hentry),
    splitOn_dots (ne_nil_of_mem_typed hother) (h.dot_not_mem other hother)] at hjoined

end Fields

/-! ## Flattening -/

/-- What is in a map is less deep than the map. -/
theorem Value.depth_le_of_field? {name : String} {entries : List (Value × Value)} {value : Value}
    (h : field? name entries = some value) : value.depth ≤ Value.depthOfEntries entries := by
  induction entries with
  | nil => cases h
  | cons entry rest ih =>
    rw [field?, List.lookup_cons] at h
    rw [Value.depthOfEntries]
    split at h
    · cases h
      exact Nat.le_max_left _ _
    · exact (ih h).trans (Nat.le_max_right _ _)

namespace Schema

variable {attributes properties : List (Value × Value)}

/-- A mapping is a map with properties, or holds such a map. -/
inductive Holds (attributes : List (Value × Value)) : Value → Prop
  | itself (hmappings : field? "mappings" attributes = none) : Holds attributes (.map attributes)
  | within {outer : List (Value × Value)}
      (houter : field? "mappings" outer = some (.map attributes)) : Holds attributes (.map outer)

/-- A mapping is flattened by declaring its properties. -/
theorem Holds.flattenWithin_eq {mapping : Value} (h : Holds attributes mapping)
    (hproperties : field? "properties" attributes = some (.map properties)) (depth : Nat)
    (path : String) :
    flattenWithin (depth + 1) path mapping =
      declareAll (flattenWithin depth) path properties [] := by
  have hgetOr : (Value.map attributes).getOr "properties" (.map []) = .ok (.map properties) := by
    rw [Value.getOr, hproperties, Option.getD_some]
  have hentries : (Value.map properties).toEntries = .ok properties := rfl
  cases h with
  | itself hmappings =>
    have hmentions : (Value.map attributes).mentions "mappings" = .ok false := by
      rw [Value.mentions, hmappings, Option.isSome_none]
    simp only [flattenWithin, hmentions, hgetOr, hentries, bind, Except.bind, Bool.false_eq_true,
      if_false]
  | @within outer houter =>
    have hmentions : (Value.map outer).mentions "mappings" = .ok true := by
      rw [Value.mentions, houter, Option.isSome_some]
    have hmember : (Value.map outer).member "mappings" = .ok (.map attributes) := by
      rw [Value.member, houter, Option.getD_some]
    simp only [flattenWithin, hmentions, hmember, hgetOr, hentries, bind, Except.bind, if_true]

/-- The properties of a mapping are less deep than the mapping. -/
theorem Holds.depth_lt {mapping : Value} (h : Holds attributes mapping)
    (hproperties : field? "properties" attributes = some (.map properties)) :
    Value.depthOfEntries properties < mapping.depth := by
  have hinner := Value.depth_le_of_field? hproperties
  rw [Value.depth] at hinner
  cases h with
  | itself _ =>
    rw [Value.depth]
    omega
  | within houter =>
    have houter := Value.depth_le_of_field? houter
    rw [Value.depth] at houter ⊢
    omega

/-- The type of a field is declared first, then those of the fields below it. -/
theorem declare_map {flattenBelow : String → Value → Except Failure Schema} {path name : String}
    {schema below : Schema} {type : Option String} {inner : Option (List (Value × Value))}
    (htype : field? "type" attributes = type.map .text)
    (hproperties : field? "properties" attributes = inner.map .map)
    (hbelow : ∀ properties, inner = some properties →
      flattenBelow (path ++ name ++ ".") (.map attributes) = .ok below)
    (hnone : inner = none → below = []) :
    declare flattenBelow path (.text name) (.map attributes) schema =
      .ok (Entries.putAll (Entries.putAll schema
        (type.toList.map fun type => (path ++ name, .text type))) below) := by
  have hdisplay : (Value.text name).display = name := rfl
  have hmentionsType : (Value.map attributes).mentions "type" = .ok type.isSome := by
    rw [Value.mentions, htype, Option.isSome_map]
  have hmentions : (Value.map attributes).mentions "properties" = .ok inner.isSome := by
    rw [Value.mentions, hproperties, Option.isSome_map]
  have hmember : (Value.map attributes).member "type" = .ok ((type.map .text).getD .null) := by
    rw [Value.member, htype]
  simp only [declare, hdisplay, hmentionsType, hmentions, hmember, bind, Except.bind, Except.map]
  cases type with
  | none =>
    cases inner with
    | none => simp [hnone rfl, Entries.putAll]
    | some properties => simp [hbelow properties rfl, Entries.putAll]
  | some type =>
    cases inner with
    | none => simp [hnone rfl, Entries.putAll]
    | some properties => simp [hbelow properties rfl, Entries.putAll]

/-- Properties add the declarations of their fields to those made so far, if the names are new. -/
theorem declareAll_eq {fields : Fields} (h : fields.DeclaredBy properties) {depth : Nat}
    (hdepth : Value.depthOfEntries properties ≤ depth) (path : String) (schema : Schema)
    (hdistinct : ((schema ++ fields.entries path).map Prod.fst).Nodup) :
    declareAll (flattenWithin depth) path properties schema =
      .ok (schema ++ fields.entries path) := by
  induction h generalizing depth path schema with
  | empty => exact congrArg Except.ok (List.append_nil schema).symm
  | @field name type below after attributes rest inner _ _ hmappings htype hproperties hbelow _
      ihbelow ihafter =>
    rw [Value.depthOfEntries, Value.depth] at hdepth
    have hflatten : ∀ properties, inner = some properties →
        flattenWithin depth (path ++ name ++ ".") (.map attributes) =
          .ok (below.entries (path ++ name ++ ".")) := by
      rintro properties rfl
      have hinner := Value.depth_le_of_field? hproperties
      rw [Value.depth] at hinner
      obtain ⟨depth, rfl⟩ := Nat.exists_eq_add_of_lt (show 0 < depth by omega)
      rw [Nat.zero_add, (Holds.itself hmappings).flattenWithin_eq hproperties]
      exact ihbelow (show Value.depthOfEntries properties ≤ depth by omega) _ []
        (hbelow.nodup_entries _)
    have hnone : inner = none → below.entries (path ++ name ++ ".") = [] := by
      rintro rfl
      have hempty : below.DeclaredBy [] := hbelow
      cases hempty
      rfl
    rw [Fields.entries_field, ← List.append_assoc, ← List.append_assoc] at hdistinct ⊢
    have hwithBelow := hdistinct.sublist ((List.sublist_append_left _ _).map _)
    have hwithOwn := hwithBelow.sublist ((List.sublist_append_left _ _).map _)
    rw [declareAll, declare_map htype hproperties hflatten hnone,
      Entries.putAll_of_nodup hwithOwn, Entries.putAll_of_nodup hwithBelow]
    exact ihafter (by omega) path _ hdistinct

/-- Flattening a mapping lists the types of its fields in pre-order, each under the names that lead
to its field, joined by dots, with `path` in front.  There is one entry for each field with a type,
and no two have the same name.  A map that holds the mapping is flattened in the same way. -/
theorem flattenMapping_eq_typed {fields : Fields}
    (hmappings : field? "mappings" attributes = none)
    (hproperties : field? "properties" attributes = some (.map properties))
    (hfields : fields.DeclaredBy properties) (path : String) :
    flattenMapping path (.map attributes) =
        .ok (fields.typed.map fun entry => (path ++ ".".intercalate entry.1, .text entry.2)) ∧
      (fields.typed.map fun entry => path ++ ".".intercalate entry.1).Nodup ∧
      (∀ outer, field? "mappings" outer = some (.map attributes) →
        flattenMapping path (.map outer) = flattenMapping path (.map attributes)) ∧
      flattenMapping path (.map attributes) =
        (flattenMapping "" (.map attributes)).map
          (List.map fun entry => (path ++ entry.1, entry.2)) := by
  have hflatten : ∀ {mapping : Value}, Holds attributes mapping → ∀ path,
      flattenMapping path mapping = .ok (fields.entries path) := by
    intro mapping hholds path
    rw [flattenMapping, hholds.flattenWithin_eq hproperties]
    exact declareAll_eq hfields (hholds.depth_lt hproperties).le path []
      (hfields.nodup_entries path)
  refine ⟨hflatten (.itself hmappings) path, ?_, fun outer houter => ?_, ?_⟩
  · have hnodup := hfields.nodup_entries path
    rwa [Fields.entries, List.map_map] at hnodup
  · rw [hflatten (.within houter), hflatten (.itself hmappings)]
  · rw [hflatten (.itself hmappings), hflatten (.itself hmappings)]
    simp [Fields.entries, Except.map]

/-- Properties with a field that has more than one way of being indexed, fields below a field with
a type and below one without, and a field named like an attribute. -/
def articleProperties : List (Value × Value) :=
  [(.text "title", .record [("type", .text "text"),
      ("fields", .record [("raw", .record [("type", .text "keyword")])])]),
    (.text "author", .record [("properties", .record
      [("name", .record [("type", .text "keyword")]),
        ("home", .record [("properties", .record [("type", .record [("type", .text "long")])]),
          ("type", .text "nested")])])]),
    (.text "note", .record [])]

/-- The fields that these properties declare. -/
def articleFields : Fields :=
  .field "title" (some "text") .empty
    (.field "author" none
      (.field "name" (some "keyword") .empty
        (.field "home" (some "nested") (.field "type" (some "long") .empty .empty) .empty))
      (.field "note" none .empty .empty))

theorem declaredBy_articleProperties : articleFields.DeclaredBy articleProperties := by
  have hlong : Fields.DeclaredBy (.field "type" (some "long") .empty .empty)
      [(.text "type", .record [("type", .text "long")])] :=
    @Fields.DeclaredBy.field _ _ _ _ _ _ none (by decide) (by decide) rfl rfl rfl .empty .empty
  have hhome : Fields.DeclaredBy
      (.field "home" (some "nested") (.field "type" (some "long") .empty .empty) .empty)
      [(.text "home", .record [("properties", .record [("type", .record [("type", .text "long")])]),
        ("type", .text "nested")])] :=
    @Fields.DeclaredBy.field _ _ _ _ _ _ (some _) (by decide) (by decide) rfl rfl rfl hlong .empty
  have hname := @Fields.DeclaredBy.field "name" (some "keyword") _ _
    [(.text "type", .text "keyword")] _ none (by decide) (by decide) rfl rfl rfl .empty hhome
  have hnote : Fields.DeclaredBy (.field "note" none .empty .empty) [(.text "note", .record [])] :=
    @Fields.DeclaredBy.field _ _ _ _ _ _ none (by decide) (by decide) rfl rfl rfl .empty .empty
  have hauthor := @Fields.DeclaredBy.field "author" none _ _
    [(.text "properties", .map _)] _ (some _) (by decide) (by decide) rfl rfl rfl hname hnote
  exact @Fields.DeclaredBy.field _ _ _ _ _ _ none (by decide) (by decide) rfl rfl rfl .empty hauthor

/-- An instance of `flattenMapping_eq_typed`. -/
theorem flattenMapping_articleProperties :
    articleFields.DeclaredBy articleProperties ∧
      flattenMapping "doc." (.record [("mappings", .record
          [("dynamic", .text "strict"), ("properties", .map articleProperties)])]) =
        .ok [("doc.title", .text "text"), ("doc.author.name", .text "keyword"),
          ("doc.author.home", .text "nested"), ("doc.author.home.type", .text "long")] := by
  obtain ⟨hflatten, _, hwithin, _⟩ := flattenMapping_eq_typed
    (show field? "mappings" [(.text "dynamic", .text "strict"),
      (.text "properties", .map articleProperties)] = none from rfl) rfl
    declaredBy_articleProperties "doc."
  exact ⟨declaredBy_articleProperties, (hwithin _ rfl).trans (hflatten.trans (by rfl))⟩

end Schema

end SearchFilter
