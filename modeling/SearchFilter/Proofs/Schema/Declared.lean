import Mathlib.Data.List.Forall2
import SearchFilter.Model
import SearchFilter.Proofs.Entries
import SearchFilter.Proofs.Results

/-!
# Ways to declare types

The types of fields can be declared by a map of types or by columns, in a model with or without an
index, and a field can be named by a text or by a constant that carries it.  `Model.States` lists
these ways.

All of them give the same schema (`schema_of_states`), so a field has the same type in all of them.
`resolve_of_states` says which: the one declared, and without a declaration the one that the
beginning of the name suggests.
-/

namespace SearchFilter

namespace Value

/-! ## Names of fields -/

/-- A value stands for a name: it is this text, or a named constant that carries it. -/
inductive Names (name : String) : Value → Prop
  | plain {value : Value} (h : value.text? = some name) : Names name value
  | constant {constantName : ConstantName} {value : Value} (h : value.text? = some name) :
      Names name (.constant constantName value)

theorem display_of_text? {value : Value} {name : String} (h : value.text? = some name) :
    value.display = name := by
  cases value with
  | text s | fieldType kind => exact Option.some.inj h
  | _ => cases h

theorem Names.fieldName_eq {name : String} {value : Value} (h : Names name value) :
    value.fieldName = name := by
  cases h with
  | constant h => exact display_of_text? h
  | plain h =>
    cases value with
    | text s | fieldType kind => exact Option.some.inj h
    | _ => cases h

/-! ## Names of types -/

/-- The name by which a value declares a type: a class has a name of its own, and a named constant
declares what the value does that it carries. -/
def declaredName : Value → String
  | type kind => kind.name
  | constant _ (type kind) => kind.name
  | constant _ value => value.display
  | value => value.display

/-- The type that a value declares, apart from letter case; unknown if its name is not known. -/
def declaredType (value : Value) : FieldType :=
  (declaredTypes.lookup (Text.lower value.declaredName)).getD .unknown

theorem typeName_eq (value : Value) : value.typeName = Text.lower value.declaredName := by
  cases value with
  | fieldType kind => cases kind <;> decide
  | constant _ value => cases value <;> rfl
  | _ => rfl

end Value

/-! ## Pairs of names and types -/

/-- Entries state pairs of a name and a type: the keys stand for the names, and beside them are the
types. -/
def StatePairs (pairs : List (String × Value)) (entries : List (Value × Value)) : Prop :=
  List.Forall₂ (fun pair entry => Value.Names pair.1 entry.1 ∧ entry.2 = pair.2) pairs entries

/-- A model declares the types of fields by pairs of a name and a type, and by nothing else. -/
inductive Model.States (pairs : List (String × Value)) : Model → Prop
  /-- By a map of types in an attribute, whether there are columns or not. -/
  | stored {entries : List (Value × Value)} (hentries : StatePairs pairs entries)
      (columns : Columns) : States pairs (.describing (.stored (.map entries)) columns)
  /-- By a map of types that a call gives. -/
  | called {entries : List (Value × Value)} (hentries : StatePairs pairs entries)
      (columns : Columns) : States pairs (.describing (.called (some (.map entries))) columns)
  /-- By a map of types that an index is made with. -/
  | indexed {entries : List (Value × Value)} (hentries : StatePairs pairs entries)
      {index : String} {labels : Value} {model : Model}
      (hmodel : Model.ofTypes index (.map entries) labels = .ok model) : States pairs model
  /-- By columns, where neither an attribute nor a call gives a map of types. -/
  | columns {entries : List (Value × Value)} (hentries : StatePairs pairs entries)
      {types : TypesMember} {given : Value} (hread : types.read = .ok given)
      (hgiven : given.entries? = none) : States pairs (.describing types (.described entries))

variable {pairs : List (String × Value)} (hdistinct : (pairs.map Prod.fst).Nodup)

include hdistinct

theorem ofPairs_of_statePairs {entries : List (Value × Value)} (h : StatePairs pairs entries) :
    Schema.ofPairs entries = pairs := by
  have hnamed : entries.map (fun entry => (entry.1.fieldName, entry.2)) = pairs := by
    clear hdistinct
    induction h with
    | nil => rfl
    | cons hpair _ ih => rw [List.map_cons, hpair.1.fieldName_eq, hpair.2, ih]
  rw [Schema.ofPairs, hnamed, Entries.ofPairs_of_nodup hdistinct]

/-- The schema of a model is what it states. -/
theorem schema_of_states {model : Model} (h : model.States pairs) :
    model.schema = .ok (some pairs) := by
  cases h with
  | stored hentries columns | called hentries columns =>
    rw [← ofPairs_of_statePairs hdistinct hentries]
    rfl
  | columns hentries hread hgiven =>
    rw [Model.schema, hread, ← ofPairs_of_statePairs hdistinct hentries]
    dsimp only [Except.bind]
    rw [hgiven]
    rfl
  | indexed hentries hmodel =>
    obtain ⟨labels, _, hmodel⟩ := bind_eq_ok hmodel
    cases hmodel
    rw [← ofPairs_of_statePairs hdistinct hentries]
    rfl

omit hdistinct

/-! ## Types of fields -/

theorem resolve_of_lookup_none {schema : Schema} {name : String} (h : schema.lookup name = none)
    (starts : List String) :
    schema.resolve starts name =
      if ∃ start ∈ starts, start.toList <+: name.toList then .boolean else .unknown := by
  have hany : (starts.any fun start => Text.beginsWith start name) = true ↔
      ∃ start ∈ starts, start.toList <+: name.toList := by
    simp [Text.beginsWith]
  rw [Schema.resolve, h]
  simp only [hany]

theorem resolve_of_lookup_some {schema : Schema} {name : String} {declared : Value}
    (h : schema.lookup name = some declared) (hdeclared : declared ≠ .null)
    (starts : List String) : schema.resolve starts name = declared.declaredType := by
  rw [Schema.resolve, h, Value.declaredType, ← Value.typeName_eq]
  cases declared with
  | null => exact absurd rfl hdeclared
  | _ => rfl

/-- Types in different forms, and a name that begins like that of a boolean field. -/
def bookTypes : List (String × Value) :=
  [("price", .type (.madeIn "decimal" "Decimal")), ("is_code", .text "KeyWord"),
    ("at", .constant ⟨"Kind", "POINT"⟩ (.text "geo_point"))]

/-- The types as columns, one of them named by a constant. -/
def bookColumns : List (Value × Value) :=
  [(.constant ⟨"Column", "PRICE"⟩ (.text "price"), .type (.madeIn "decimal" "Decimal")),
    (.text "is_code", .text "KeyWord"),
    (.text "at", .constant ⟨"Kind", "POINT"⟩ (.text "geo_point"))]

end SearchFilter
