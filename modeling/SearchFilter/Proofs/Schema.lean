import SearchFilter.Proofs.Entries
import SearchFilter.Proofs.Results
import SearchFilter.Schema

/-!
# Declared types

What an index mapping declares is a schema: no name occurs twice (`nodup_flattenMapping`), so its
entries are those of a map in every way in which a map is given.
-/

namespace SearchFilter.Schema

variable {flattenBelow : String → Value → Except Failure Schema} {path : String}
  {schema declared : Schema}

/-- A field that can be declared has a type of its own or none, and fields below it or none. -/
theorem declare_ok {name definition : Value}
    (h : declare flattenBelow path name definition schema = .ok declared) :
    ∃ withOwn,
      ((definition.mentions "type" = .ok false ∧ withOwn = schema) ∨
        (definition.mentions "type" = .ok true ∧ ∃ type, definition.member "type" = .ok type ∧
          withOwn = Entries.put (path ++ name.display) type schema)) ∧
      ((definition.mentions "properties" = .ok false ∧ declared = withOwn) ∨
        (definition.mentions "properties" = .ok true ∧
          ∃ below, flattenBelow (path ++ name.display ++ ".") definition = .ok below ∧
            declared = Entries.putAll withOwn below)) := by
  have hbelow : ∀ {withOwn : Schema},
      ((definition.mentions "properties").bind fun hasFields =>
        if hasFields = true then
          (flattenBelow (path ++ name.display ++ ".") definition).map fun below =>
            Entries.putAll withOwn below
        else .ok withOwn) = .ok declared →
      (definition.mentions "properties" = .ok false ∧ declared = withOwn) ∨
        (definition.mentions "properties" = .ok true ∧
          ∃ below, flattenBelow (path ++ name.display ++ ".") definition = .ok below ∧
            declared = Entries.putAll withOwn below) := by
    intro withOwn h
    obtain ⟨hasFields, hfields, h⟩ := bind_eq_ok h
    cases hasFields with
    | false => exact .inl ⟨hfields, (Except.ok.inj h).symm⟩
    | true =>
      obtain ⟨below, hbelow, hdeclared⟩ := map_eq_ok h
      exact .inr ⟨hfields, below, hbelow, hdeclared.symm⟩
  obtain ⟨hasType, htype, h⟩ := bind_eq_ok h
  cases hasType with
  | false => exact ⟨schema, .inl ⟨htype, rfl⟩, hbelow h⟩
  | true =>
    obtain ⟨withOwn, hown, h⟩ := bind_eq_ok h
    obtain ⟨type, hmember, rfl⟩ := map_eq_ok hown
    exact ⟨_, .inr ⟨htype, type, hmember, rfl⟩, hbelow h⟩

theorem nodup_declare (hschema : (schema.map Prod.fst).Nodup) {name definition : Value}
    (h : declare flattenBelow path name definition schema = .ok declared) :
    (declared.map Prod.fst).Nodup := by
  obtain ⟨withOwn, hown, hbelow⟩ := declare_ok h
  have hnodup : (withOwn.map Prod.fst).Nodup := by
    rcases hown with ⟨_, rfl⟩ | ⟨_, type, _, rfl⟩
    · exact hschema
    · exact Entries.nodup_put hschema _ type
  rcases hbelow with ⟨_, rfl⟩ | ⟨_, below, _, rfl⟩
  · exact hnodup
  · exact Entries.nodup_putAll hnodup below

theorem nodup_declareAll {fields : List (Value × Value)} (hschema : (schema.map Prod.fst).Nodup)
    (h : declareAll flattenBelow path fields schema = .ok declared) :
    (declared.map Prod.fst).Nodup := by
  induction fields generalizing schema with
  | nil =>
    cases h
    exact hschema
  | cons field rest ih =>
    obtain ⟨next, hnext, hrest⟩ := bind_eq_ok h
    exact ih (nodup_declare hschema hnext) hrest

/-- What a mapping declares are its properties, or those of the map that it holds. -/
theorem flattenWithin_ok {depth : Nat} {mapping : Value}
    (h : flattenWithin (depth + 1) path mapping = .ok declared) :
    ∃ inner properties fields,
      ((mapping.mentions "mappings" = .ok false ∧ inner = mapping) ∨
        (mapping.mentions "mappings" = .ok true ∧ mapping.member "mappings" = .ok inner)) ∧
      inner.getOr "properties" (.map []) = .ok properties ∧ properties.toEntries = .ok fields ∧
      declareAll (flattenWithin depth) path fields [] = .ok declared := by
  obtain ⟨hasMappings, hmappings, h⟩ := bind_eq_ok h
  cases hasMappings with
  | false =>
    obtain ⟨properties, hproperties, h⟩ := bind_eq_ok h
    obtain ⟨fields, hfields, h⟩ := bind_eq_ok h
    exact ⟨mapping, properties, fields, .inl ⟨hmappings, rfl⟩, hproperties, hfields, h⟩
  | true =>
    obtain ⟨inner, hinner, h⟩ := bind_eq_ok h
    obtain ⟨properties, hproperties, h⟩ := bind_eq_ok h
    obtain ⟨fields, hfields, h⟩ := bind_eq_ok h
    exact ⟨inner, properties, fields, .inr ⟨hmappings, hinner⟩, hproperties, hfields, h⟩

/-- No name is declared twice. -/
theorem nodup_flattenMapping {mapping : Value} (h : flattenMapping path mapping = .ok declared) :
    (declared.map Prod.fst).Nodup := by
  obtain ⟨_, _, fields, _, _, _, hfields⟩ := flattenWithin_ok h
  have hnil : (([] : Schema).map Prod.fst).Nodup := List.nodup_nil
  exact nodup_declareAll hnil hfields

end SearchFilter.Schema
