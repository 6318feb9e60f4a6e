import SearchFilter.Proofs.Calendar.Moments
import SearchFilter.Proofs.Compiler.Containing

/-!
# Lists that are written as one text

The predicates `in` and `not_in` ask a field for one of several values, or for none of them.  Under
them a text lists its parts between commas.  The text is read for the field as a whole, and is cut
only then.  So an item of a list is not converted, though on its own it would be.

* `listed_items` lists the items of a joined text, and `isConverted_items` says when such a text is
  itself converted.
* `compile_membership` says what a parameter with these predicates compiles to.
* `compile_dated_items` is about lists with a date in an item: the date parser is given the whole
  text.
* `compile_membership_items` is the result: the values of a joined text are those of its items, if
  none of these would be converted on its own.
-/

namespace SearchFilter

/-! ## Items -/

/-- An item of a list that is written as one text: trimmed, not empty, and without the comma that
stands between items. -/
structure IsItem (s : String) : Prop where
  strip_eq : Text.strip s = s
  ne : s ≠ ""
  comma_not_mem : ',' ∉ s.toList

instance (s : String) : Decidable (IsItem s) :=
  decidable_of_iff (Text.strip s = s ∧ s ≠ "" ∧ ',' ∉ s.toList)
    ⟨fun ⟨hstrip, hne, hcomma⟩ => ⟨hstrip, hne, hcomma⟩, fun h => ⟨h.1, h.2, h.3⟩⟩

theorem IsItem.isBlank_eq {item : String} (h : IsItem item) :
    (Value.text item).isBlank = false := by
  have htrim : Text.trim item.toList = item.toList := by
    rw [← String.toList_ofList (l := Text.trim item.toList)]
    exact congrArg String.toList h.strip_eq
  show (Text.trim item.toList).isEmpty = false
  rw [htrim]
  simpa using h.ne

section Items

variable {items : List String} (hne : items ≠ []) (hitems : ∀ item ∈ items, IsItem item)

include hne hitems

theorem splitOn_items : Text.splitOn "," (",".intercalate items) = items := by
  apply Text.splitOn_intercalate (by decide) hne
  intro item hitem
  simpa [List.singleton_infix_iff] using (hitems item hitem).comma_not_mem

/-- The values listed by a joined text are its items. -/
theorem listed_items : Clause.listed (.text (",".intercalate items)) = items.map .text := by
  have hstrip : items.map Text.strip = items := by
    conv_rhs => rw [← List.map_id items]
    exact List.map_congr_left fun item hitem => (hitems item hitem).strip_eq
  have hkept : items.filter (fun part => !part.isEmpty) = items := by
    apply List.filter_eq_self.mpr
    intro item hitem
    simpa using (hitems item hitem).ne
  show (((Text.splitOn "," _).map Text.strip).filter _).map Value.text = _
  rw [splitOn_items hne hitems, hstrip, hkept]

theorem isBlank_items : (Value.text (",".intercalate items)).isBlank = false := by
  obtain ⟨item, hitem⟩ := List.exists_mem_of_ne_nil items hne
  obtain ⟨c, hc, hblank⟩ := Text.exists_not_isBlank (hitems item hitem).isBlank_eq
  have hcomma : ',' ∉ [c] := by
    intro hmem
    cases List.mem_singleton.mp hmem
    exact (hitems item hitem).comma_not_mem hc
  have hmem : c ∈ (",".intercalate items).toList := by
    rw [← List.singleton_infix_iff, String.toList_intercalate]
    apply (Text.infix_intercalate hcomma (by simpa using hne)).mpr
    exact ⟨item.toList, List.mem_map_of_mem hitem, (List.singleton_infix_iff _ _).mpr hc⟩
  show (Text.trim _).isEmpty = false
  by_contra hempty
  rw [Text.trim_isEmpty_iff.mp (by simpa using hempty) c hmem] at hblank
  cases hblank

/-- A joined text is converted only if an item of it would be, and for a boolean field only if it is
the only item. -/
theorem isConverted_items {compiler : Compiler} {field : String}
    (h : compiler.IsConverted field (",".intercalate items)) :
    (∃ item ∈ items, compiler.IsConverted field item) ∧
      (compiler.typeOf field = .boolean → items.length = 1) := by
  rcases h with ⟨htype, htruth⟩ | ⟨htype, date, hdate, hnotation⟩
  · -- A truth value is written without a comma.
    have hone : items = [",".intercalate items] := by
      have hsplit := splitOn_items hne hitems
      rcases htruth with htext | htext <;> rw [htext] at hsplit ⊢ <;> exact hsplit.symm
    rw [hone]
    exact ⟨⟨_, List.mem_singleton_self _, .inl ⟨htype, htruth⟩⟩, fun _ => rfl⟩
  · rw [String.toList_intercalate] at hdate
    have hcomma : ',' ∉ date := hnotation.not_mem (by decide) (by decide)
    obtain ⟨text, htext, hwithin⟩ :=
      (Text.infix_intercalate hcomma (by simpa using hne)).mp hdate
    obtain ⟨item, hitem, rfl⟩ := List.mem_map.mp htext
    exact ⟨⟨item, hitem, .inr ⟨htype, date, hwithin, hnotation⟩⟩,
      fun hboolean => absurd hboolean htype⟩

omit hitems in
/-- A joined text is converted for the date in an item. -/
theorem isConverted_of_item {compiler : Compiler} {field : String}
    (htype : compiler.typeOf field ≠ .boolean) {item : String} (hitem : item ∈ items)
    (h : compiler.IsConverted field item) :
    compiler.IsConverted field (",".intercalate items) := by
  rcases h with ⟨hboolean, -⟩ | ⟨-, date, hdate, hnotation⟩
  · exact absurd hboolean htype
  · refine .inr ⟨htype, date, ?_, hnotation⟩
    have hcomma : ',' ∉ date := hnotation.not_mem (by decide) (by decide)
    rw [String.toList_intercalate]
    exact (Text.infix_intercalate hcomma (by simpa using hne)).mpr
      ⟨item.toList, List.mem_map_of_mem hitem, hdate⟩

omit hne hitems in
/-- The default date parser reads no list of several items. -/
theorem default_items (hlength : 1 < items.length) :
    ∃ reason, DateParser.default (",".intercalate items) = .error reason := by
  cases hread : Calendar.readMoment? (",".intercalate items) with
  | none => exact ⟨_, by rw [DateParser.default, hread]⟩
  | some moment =>
    have hcomma : ',' ∉ (",".intercalate items).toList :=
      Calendar.not_mem_of_readMoment? hread (by decide) (by decide) (by decide) (by decide)
    refine absurd ?_ hcomma
    rcases items with _ | ⟨first, _ | ⟨second, rest⟩⟩
    · simp at hlength
    · simp at hlength
    · simp [String.toList_intercalate]

end Items

/-! ## The parameter -/

/-- The clause that a field has one of the values or, negated, none of them. -/
def Clause.membership (negated : Bool) (field : String) (values : List Value) : Clause :=
  if negated then .noneOf [.leaf (.terms field values)] else .leaf (.terms field values)

/-- The key that asks a field for one of several values or, negated, for none of them. -/
def membershipKey (negated : Bool) (field : String) : String :=
  field ++ if negated then "_not_in" else "_in"

namespace Compiler

open FilterKey (IsName defaultSeparator)

variable {compiler : Compiler} {negated : Bool} {field : String} {source : LocaleSource}

/-- No key with a meaning of its own ends like these predicates. -/
theorem membershipKey_not_special (negated : Bool) (field : String) :
    ¬ (membershipKey negated field = sortKey ∨ membershipKey negated field = modeKey) ∧
      membershipKey negated field ∉ freeTextKeys ∧ membershipKey negated field ≠ groupKey := by
  have hlast : (membershipKey negated field).toList.getLast? = some 'n' := by
    cases negated <;> simp [membershipKey]
  have hspecial : ∀ key ∈ sortKey :: modeKey :: groupKey :: freeTextKeys,
      key.toList.getLast? ≠ some 'n' := by
    decide
  have hnot : membershipKey negated field ∉ sortKey :: modeKey :: groupKey :: freeTextKeys :=
    fun hmem => hspecial _ hmem hlast
  simp only [List.mem_cons, not_or] at hnot
  exact ⟨not_or.mpr ⟨hnot.1, hnot.2.1⟩, hnot.2.2.2, hnot.2.2.1⟩

section Keys

variable (hpredicates : compiler.settings.predicates = Predicate.defaults)
  (hseparator : compiler.settings.orSeparator = defaultSeparator) (hname : IsName negated field)

include hpredicates hseparator hname

theorem role_membership :
    compiler.role (membershipKey negated field) =
      .ok (.filter ⟨[field], .membership negated⟩) := by
  obtain ⟨hdirective, htext, hgroup⟩ := membershipKey_not_special negated field
  have hkey : membershipKey negated field = field ++ (Predicate.membership negated).ending := by
    cases negated <;> rfl
  rw [role, if_neg hdirective, if_neg htext, if_neg hgroup, parseKey, hpredicates, hseparator,
    hkey, FilterKey.parse_membership hname]
  cases negated <;> rfl

/-- A parameter with one of these predicates compiles to the values that are listed by what is read
for the field. -/
theorem compile_membership {schema : Option Schema} (hschema : compiler.model.schema = .ok schema)
    {value : Value} (hblank : value.isBlank = false) :
    (compiler.compile [(membershipKey negated field, value)] source).1 =
      (compiler.readFor field value).map fun read =>
        compiler.filtering (.membership negated field (Clause.listed read)) := by
  rw [compile_filter (role_membership hpredicates hseparator hname) hschema hblank]
  cases negated <;> rfl

/-- A list that is not converted compiles to its items. -/
theorem compile_items {schema : Option Schema} (hschema : compiler.model.schema = .ok schema)
    {items : List String} (hne : items ≠ []) (hitems : ∀ item ∈ items, IsItem item)
    (hconverted : ¬ compiler.IsConverted field (",".intercalate items)) :
    (compiler.compile [(membershipKey negated field, .text (",".intercalate items))] source).1 =
      .ok (compiler.filtering (.membership negated field (items.map .text))) := by
  rw [compile_membership hpredicates hseparator hname hschema (isBlank_items hne hitems),
    readFor_of_not_isConverted hconverted, Except.map, listed_items hne hitems]

/-- A list with a date in an item, for a field that is not boolean, is read as the date parser reads
the whole text.  What it refuses is refused, and what it reads, perhaps without the time, is
listed. -/
theorem compile_dated_items {schema : Option Schema} (hschema : compiler.model.schema = .ok schema)
    {items : List String} (hne : items ≠ []) (hitems : ∀ item ∈ items, IsItem item)
    (htype : compiler.typeOf field ≠ .boolean)
    (hdated : ∃ item ∈ items, compiler.IsConverted field item) :
    (∀ reason, compiler.settings.dateParser (",".intercalate items) = .error reason →
      (compiler.compile [(membershipKey negated field, .text (",".intercalate items))] source).1 =
        .error (.unreadableDate (",".intercalate items) reason)) ∧
      ∀ value, compiler.settings.dateParser (",".intercalate items) = .ok value →
        ∃ read, (read = value ∨ read = value.withoutTime) ∧
          (compiler.compile [(membershipKey negated field, .text (",".intercalate items))]
            source).1 =
              .ok (compiler.filtering (.membership negated field (Clause.listed read))) := by
  obtain ⟨item, hitem, hconverted⟩ := hdated
  obtain ⟨hrefused, hread⟩ :=
    readFor_of_isConverted htype (isConverted_of_item hne htype hitem hconverted)
  rw [compile_membership hpredicates hseparator hname hschema (isBlank_items hne hitems)]
  refine ⟨fun reason hreason => ?_, fun value hvalue => ?_⟩
  · rw [hrefused reason hreason]
    rfl
  · obtain ⟨read, hkept, hread⟩ := hread value hvalue
    exact ⟨read, hkept, by rw [hread]; rfl⟩

/-! ## The result -/

/-- If each item of a list compiles on its own, the list compiles to the values of all its items,
unless some of several items would be converted on their own.  A list for a boolean field compiles
in any case; of several items it compiles to their texts.  A list of several items with a date in
one of them, for another field, compiles to what the date parser reads from the whole text, if it
reads this text; the default parser does not. -/
theorem compile_membership_items {items : List String} (hne : items ≠ [])
    (hitems : ∀ item ∈ items, IsItem item)
    (halone : ∀ item ∈ items, ∃ compiled,
      (compiler.compile [(membershipKey negated field, .text item)] source).1 = .ok compiled) :
    ∃ valuesOf : String → List Value,
      (∀ item ∈ items, (compiler.compile [(membershipKey negated field, .text item)] source).1 =
        .ok (compiler.filtering (.membership negated field (valuesOf item)))) ∧
      (∀ item ∈ items, ¬ compiler.IsConverted field item → valuesOf item = [.text item]) ∧
      ((items.length = 1 ∨ ∀ item ∈ items, ¬ compiler.IsConverted field item) →
        (compiler.compile [(membershipKey negated field, .text (",".intercalate items))]
          source).1 =
            .ok (compiler.filtering (.membership negated field (items.flatMap valuesOf)))) ∧
      (compiler.typeOf field = .boolean → 1 < items.length →
        (compiler.compile [(membershipKey negated field, .text (",".intercalate items))]
          source).1 =
            .ok (compiler.filtering (.membership negated field (items.map .text)))) ∧
      (compiler.typeOf field ≠ .boolean → 1 < items.length →
        (∃ item ∈ items, compiler.IsConverted field item) →
        (∀ value, compiler.settings.dateParser (",".intercalate items) = .ok value →
          ∃ read, (read = value ∨ read = value.withoutTime) ∧
            (compiler.compile [(membershipKey negated field, .text (",".intercalate items))]
              source).1 =
                .ok (compiler.filtering (.membership negated field (Clause.listed read)))) ∧
        (compiler.settings.dateParser = .default → ∃ reason,
          (compiler.compile [(membershipKey negated field, .text (",".intercalate items))]
            source).1 = .error (.unreadableDate (",".intercalate items) reason))) := by
  obtain ⟨first, hfirst⟩ := List.exists_mem_of_ne_nil items hne
  obtain ⟨schema, hschema⟩ := exists_schema_of_compile (.inl (halone first hfirst))
  have hcompile : ∀ item ∈ items,
      (compiler.compile [(membershipKey negated field, .text item)] source).1 =
        (compiler.readFor field (.text item)).map fun read =>
          compiler.filtering (.membership negated field (Clause.listed read)) := by
    intro item hitem
    exact compile_membership hpredicates hseparator hname hschema (hitems item hitem).isBlank_eq
  have hread : ∀ item ∈ items, ∃ read, compiler.readFor field (.text item) = .ok read := by
    intro item hitem
    obtain ⟨compiled, hcompiled⟩ := halone item hitem
    rw [hcompile item hitem] at hcompiled
    obtain ⟨read, hread, -⟩ := map_eq_ok hcompiled
    exact ⟨read, hread⟩
  choose! read hread using hread
  have hvalues : ∀ item ∈ items, ¬ compiler.IsConverted field item →
      Clause.listed (read item) = [.text item] := by
    intro item hitem hconverted
    have hsame := (hread item hitem).symm.trans (readFor_of_not_isConverted hconverted)
    have hlisted := listed_items (List.cons_ne_nil item []) (by simpa using hitems item hitem)
    rw [String.intercalate_singleton] at hlisted
    rw [Except.ok.inj hsame, hlisted]
    rfl
  have hsingle : ∀ item ∈ items,
      (compiler.compile [(membershipKey negated field, .text item)] source).1 =
        .ok (compiler.filtering (.membership negated field (Clause.listed (read item)))) := by
    intro item hitem
    rw [hcompile item hitem, hread item hitem]
    rfl
  refine ⟨fun item => Clause.listed (read item), hsingle, hvalues, ?_, ?_, ?_⟩
  · rintro (hone | hnone)
    · obtain ⟨item, rfl⟩ := List.length_eq_one_iff.mp hone
      rw [String.intercalate_singleton, List.flatMap_singleton]
      exact hsingle item (List.mem_singleton_self item)
    · have hflat : items.flatMap (fun item => Clause.listed (read item)) = items.map .text := by
        rw [List.map_eq_flatMap]
        exact List.flatMap_congr fun item hitem => hvalues item hitem (hnone item hitem)
      rw [hflat]
      apply compile_items hpredicates hseparator hname hschema hne hitems
      intro hconverted
      obtain ⟨item, hitem, hitemConverted⟩ := (isConverted_items hne hitems hconverted).1
      exact hnone item hitem hitemConverted
  · intro hboolean hlength
    apply compile_items hpredicates hseparator hname hschema hne hitems
    intro hconverted
    have hone := (isConverted_items hne hitems hconverted).2 hboolean
    omega
  · intro htype hlength hdated
    obtain ⟨hrefused, hparsed⟩ :=
      compile_dated_items hpredicates hseparator hname hschema hne hitems htype hdated
    refine ⟨hparsed, fun hdefault => ?_⟩
    obtain ⟨reason, hreason⟩ := default_items hlength
    rw [← hdefault] at hreason
    exact ⟨reason, hrefused reason hreason⟩

end Keys

/-- Tags are listed as they are, also with dots and blanks in them. -/
theorem compile_membership_tags :
    (∀ item ∈ ["a b", "1.2.2024", "c"], IsItem item ∧ ∃ compiled,
        (plain.compile [("tag_not_in", .text item)] (.constant "en")).1 = .ok compiled) ∧
      (plain.compile [("tag_not_in", .text "a b,1.2.2024,c")] (.constant "en")).1 =
        .ok (plain.filtering (.noneOf [.leaf (.terms "tag"
          [.text "a b", .text "1.2.2024", .text "c"])])) := by
  have hname : IsName true "tag" := by decide
  have hitems : ∀ item ∈ ["a b", "1.2.2024", "c"], IsItem item := by decide +kernel
  have halone : ∀ item ∈ ["a b", "1.2.2024", "c"], ∃ compiled,
      (plain.compile [(membershipKey true "tag", .text item)] (.constant "en")).1 =
        .ok compiled := by
    have hok : ∀ item ∈ ["a b", "1.2.2024", "c"],
        (plain.compile [(membershipKey true "tag", .text item)] (.constant "en")).1.isOk =
          true := by
      decide +kernel
    exact fun item hitem => exists_eq_ok (hok item hitem)
  have hconverted : ∀ item ∈ ["a b", "1.2.2024", "c"], ¬ plain.IsConverted "tag" item := by
    have hlooks : ∀ item ∈ ["a b", "1.2.2024", "c"], ¬ Calendar.looksLikeDate item = true := by
      decide +kernel
    rintro item hitem (⟨htype, _⟩ | ⟨_, hdate⟩)
    · exact absurd htype (by decide +kernel)
    · exact hlooks item hitem (Calendar.looksLikeDate_iff.mpr hdate)
  obtain ⟨valuesOf, -, hvalues, hjoined, -⟩ :=
    compile_membership_items rfl rfl hname (by decide) hitems halone
  refine ⟨fun item hitem => ⟨hitems item hitem, halone item hitem⟩, ?_⟩
  have hflat : ["a b", "1.2.2024", "c"].flatMap valuesOf =
      [.text "a b", .text "1.2.2024", .text "c"] := by
    simp [hvalues, hconverted]
  rw [← hflat]
  exact hjoined (.inr hconverted)

/-- On their own `1` and `0` are truth values of a boolean field, and in a list they are texts. -/
theorem not_flatMap_of_truth_values :
    (∀ item ∈ ["1", "0"], IsItem item ∧ ∃ compiled,
        (plain.compile [("is_open_in", .text item)] (.constant "en")).1 = .ok compiled) ∧
      ¬ ∃ valuesOf : String → List Value,
        (∀ item ∈ ["1", "0"], (plain.compile [("is_open_in", .text item)] (.constant "en")).1 =
          .ok (plain.filtering (.membership false "is_open" (valuesOf item)))) ∧
        (plain.compile [("is_open_in", .text "1,0")] (.constant "en")).1 =
          .ok (plain.filtering (.membership false "is_open" (["1", "0"].flatMap valuesOf))) := by
  have htype : plain.typeOf "is_open" = .boolean := by decide +kernel
  -- What a text lists is what is read for the boolean field.
  have hcompile : ∀ s values, (Value.text s).isBlank = false →
      Clause.listed (Value.text s).truthValue = values →
      (plain.compile [("is_open_in", .text s)] (.constant "en")).1 =
        .ok (plain.filtering (.membership false "is_open" values)) := by
    intro s values hblank hlisted
    have hname : IsName false "is_open" := by decide
    have hschema : plain.model.schema = .ok none := rfl
    have hread : plain.readFor "is_open" (.text s) = .ok (Value.text s).truthValue := by
      show (Value.text s).coerce (plain.typeOf "is_open") plain.settings.dateParser = _
      rw [Value.coerce, if_pos htype]
    rw [← hlisted]
    exact (compile_membership rfl rfl hname hschema hblank).trans (by rw [hread]; rfl)
  have hone := hcompile "1" [.bool true] (by decide) rfl
  have hzero := hcompile "0" [.bool false] (by decide) rfl
  have hboth := hcompile "1,0" [.text "1", .text "0"] (by decide) rfl
  have hitems : ∀ item ∈ ["1", "0"], IsItem item := by decide +kernel
  refine ⟨fun item hitem => ⟨hitems item hitem, ?_⟩, ?_⟩
  · simp only [List.mem_cons, List.not_mem_nil, or_false] at hitem
    rcases hitem with rfl | rfl
    · exact ⟨_, hone⟩
    · exact ⟨_, hzero⟩
  · rintro ⟨valuesOf, halone, hjoined⟩
    have hfirst : valuesOf "1" = [.bool true] := by
      simpa [filtering, Clause.membership] using (halone "1" (by simp)).symm.trans hone
    have hlisted : valuesOf "1" ++ valuesOf "0" = [.text "1", .text "0"] := by
      simpa [filtering, Clause.membership] using hjoined.symm.trans hboth
    rw [hfirst] at hlisted
    cases hlisted

end Compiler

end SearchFilter
