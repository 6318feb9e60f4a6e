import SearchFilter.Proofs.Json.ReadBack

/-!
# The form that JSON gives to a value

What is read from the JSON text of a value is `form` of the value: dates, moments and field types
have become texts, tuples lists and keys texts, and everything else is as it was.  This needs that
the doubles in it have the form that rounding gives (`Value.isProper`); then they are read as they
were (`readScalar_double_of_isProper`).
-/

namespace SearchFilter

namespace Value

mutual

/-- Whether all doubles in a value have the form that rounding gives. -/
def isProper : Value → Bool
  | float x => x.isProper
  | list items => allProper items
  | tuple items => allProper items
  | map entries => entriesProper entries
  | _ => true

/-- Whether all doubles in a list have that form. -/
def allProper : List Value → Bool
  | [] => true
  | item :: items => isProper item && allProper items

/-- Whether all doubles in the values of a map have that form. -/
def entriesProper : List (Value × Value) → Bool
  | [] => true
  | (_, value) :: entries => isProper value && entriesProper entries

end

end Value

namespace Json

mutual

/-- The form that JSON gives to a value. -/
def form : Value → Value
  | .list items => .list (formItems items)
  | .tuple items => .list (formItems items)
  | .map entries => .mapOf (formEntries entries)
  | .date d => .text d.isoText
  | .datetime t => .text t.isoText
  | .fieldType kind => .text kind.name
  | value => value

/-- The form that JSON gives to the values of a list. -/
def formItems : List Value → List Value
  | [] => []
  | item :: items => form item :: formItems items

/-- The form that JSON gives to the entries of a map. -/
def formEntries : List (Value × Value) → List (Value × Value)
  | [] => []
  | (key, value) :: entries => (.text (keyName key), form value) :: formEntries entries

end

theorem rereadDouble_of_isProper {x : Number.Binary64} (h : x.isProper = true) :
    rereadDouble x = .float x := by
  have hread : readScalar ((double x).toList ++ []) = .ok (.float x, []) :=
    readScalar_double_of_isProper h (by rintro _ ⟨⟩)
  rw [List.append_nil] at hread
  rw [rereadDouble, hread]

mutual

/-- A value whose doubles are proper is read in its form. -/
theorem reread_eq_form (v : Value) (h : v.isProper = true) : reread v = form v := by
  cases v with
  | float x => exact rereadDouble_of_isProper h
  | list items => rw [reread, form, rereadItems_eq_formItems items h]
  | tuple items => rw [reread, form, rereadItems_eq_formItems items h]
  | map entries => rw [reread, form, rereadEntries_eq_formEntries entries h]
  | _ => rfl

theorem rereadItems_eq_formItems (items : List Value) (h : Value.allProper items = true) :
    rereadItems items = formItems items := by
  cases items with
  | nil => rfl
  | cons item rest =>
    rw [Value.allProper, Bool.and_eq_true] at h
    rw [rereadItems, formItems, reread_eq_form item h.1, rereadItems_eq_formItems rest h.2]

theorem rereadEntries_eq_formEntries (entries : List (Value × Value))
    (h : Value.entriesProper entries = true) : rereadEntries entries = formEntries entries := by
  cases entries with
  | nil => rfl
  | cons entry rest =>
    obtain ⟨key, value⟩ := entry
    rw [Value.entriesProper, Bool.and_eq_true] at h
    rw [rereadEntries, formEntries, reread_eq_form value h.1, rereadEntries_eq_formEntries rest h.2]

end

end Json

end SearchFilter
