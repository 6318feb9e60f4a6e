import SearchFilter.Proofs.Compiler.Apart
import SearchFilter.Proofs.Compiler.Groups
import SearchFilter.Proofs.Json.Records

/-!
# Conditions in groups and outside

The entries of a group are compiled like parameters.  The compiler takes its steps in another order
there, so the two need not fail alike: integer texts under a key that names nothing are read outside
of groups and passed over inside.  `Follows` is what remains: where parameters compile, the group
has what they compile to, and where they have a date that cannot be read, so has the group.

The relation is carried from one entry (`follows_groupEntry`) to a group (`follows_groupFilters`)
and to all groups (`follows_compile_groups`).  `compile_groups` is the result.
-/

namespace SearchFilter

/-! ## Following -/

section Following

variable {α β γ δ : Type}

/-- The second result is made of the first one, or is the same date that cannot be read.  Nothing is
said where the first is another failure. -/
structure Follows (f : α → β) (x : Except Failure α) (y : Except Failure β) : Prop where
  of_ok : ∀ a, x = .ok a → y = .ok (f a)
  of_date : ∀ s reason, x = .error (.unreadableDate s reason) →
    y = .error (.unreadableDate s reason)

theorem follows_ok (f : α → β) (a : α) : Follows f (.ok a) (.ok (f a)) :=
  ⟨fun _ ha => congrArg (fun a => Except.ok (f a)) (Except.ok.inj ha), fun _ _ he => nomatch he⟩

theorem follows_error (f : α → β) (e : Failure) : Follows f (.error e) (.error e) :=
  ⟨fun _ ha => (nomatch ha), fun _ _ he => congrArg _ (Except.error.inj he)⟩

/-- Any result follows a failure that is not a date. -/
theorem follows_of_not_date (f : α → β) {e : Failure}
    (h : ∀ s reason, e ≠ .unreadableDate s reason) (y : Except Failure β) :
    Follows f (.error e) y :=
  ⟨fun _ ha => (nomatch ha), fun s reason he => absurd (Except.error.inj he) (h s reason)⟩

theorem Follows.bind {f : α → β} {g : γ → δ} {x : Except Failure α} {y : Except Failure β}
    (h : Follows f x y) {next : α → Except Failure γ} {next' : β → Except Failure δ}
    (hnext : ∀ a, Follows g (next a) (next' (f a))) : Follows g (x.bind next) (y.bind next') := by
  cases x with
  | error e =>
    refine ⟨fun _ hc => (nomatch hc), fun s reason he => ?_⟩
    rw [h.of_date s reason (congrArg Except.error (Except.error.inj he))]
    rfl
  | ok a =>
    rw [h.of_ok a rfl]
    exact hnext a

theorem Follows.map_right {f : α → β} {x : Except Failure α} {y : Except Failure β}
    (h : Follows f x y) (g : β → δ) : Follows (fun a => g (f a)) x (y.map g) := by
  refine ⟨fun a ha => ?_, fun s reason he => ?_⟩
  · rw [h.of_ok a ha]
    rfl
  · rw [h.of_date s reason he]
    rfl

theorem Follows.map {f : α → β} {x : Except Failure α} {y : Except Failure β} (h : Follows f x y)
    {g : α → γ} {g' : β → δ} {f' : γ → δ} (hcomm : ∀ a, g' (f a) = f' (g a)) :
    Follows f' (x.map g) (y.map g') := by
  refine ⟨fun c hc => ?_, fun s reason he => ?_⟩
  · obtain ⟨a, ha, rfl⟩ := map_eq_ok hc
    rw [h.of_ok a ha, Except.map, hcomm]
  · rw [h.of_date s reason (map_eq_error he)]
    rfl

/-- What follows item by item follows for all items together. -/
theorem follows_mapM {f : β → δ} {step : α → Except Failure β} {step' : γ → Except Failure δ}
    {items : List α} {items' : List γ}
    (h : List.Forall₂ (fun item item' => Follows f (step item) (step' item')) items items') :
    Follows (List.map f) (items.mapM step) (items'.mapM step') := by
  induction h with
  | nil => exact follows_ok _ []
  | @cons item item' rest rest' hfirst _ ih =>
    rw [List.mapM_cons, List.mapM_cons]
    exact hfirst.bind fun first => ih.bind fun later => follows_ok _ (first :: later)

end Following

namespace Compiler

variable {compiler : Compiler} {source : LocaleSource}

/-! ## One entry -/

/-- A key that is read in groups as it is outside: it is none of the keys with a meaning of their
own, and it makes no free-text term on one field. -/
structure IsConditionKey (compiler : Compiler) (key : String) : Prop where
  not_mem_freeTextKeys : key ∉ freeTextKeys
  ne_sortKey : key ≠ sortKey
  ne_modeKey : key ≠ modeKey
  ne_groupKey : key ≠ groupKey
  isMultiField : ∀ parsed ∈ compiler.named? key,
    parsed.predicate.name = containsName → parsed.isMultiField = true

instance (key : String) : Decidable (compiler.IsConditionKey key) :=
  decidable_of_iff
    (key ∉ freeTextKeys ∧ key ≠ sortKey ∧ key ≠ modeKey ∧ key ≠ groupKey ∧
      ∀ parsed ∈ compiler.named? key,
        parsed.predicate.name = containsName → parsed.isMultiField = true)
    ⟨fun ⟨htext, hsort, hmode, hgroup, hmulti⟩ => ⟨htext, hsort, hmode, hgroup, hmulti⟩,
      fun h => ⟨h.1, h.2, h.3, h.4, h.5⟩⟩

/-- The filter that a contribution is, if it is one. -/
def Contribution.filter? : Contribution → Option Clause
  | .filter clause => some clause
  | _ => none

theorem IsConditionKey.not_directive {key : String} (h : compiler.IsConditionKey key) :
    ¬ (key = sortKey ∨ key = modeKey) :=
  not_or.mpr ⟨h.ne_sortKey, h.ne_modeKey⟩

/-- A condition key is that of a filter, or names nothing. -/
theorem IsConditionKey.role_eq {key : String} (h : compiler.IsConditionKey key) :
    compiler.role key =
      (compiler.parseKey key).map fun parsed => parsed.elim .unknown .filter := by
  rw [role, if_neg h.not_directive, if_neg h.not_mem_freeTextKeys, if_neg h.ne_groupKey]
  cases hparse : compiler.parseKey key with
  | error e => rfl
  | ok parsed =>
    cases parsed with
    | none => rfl
    | some parsed =>
      have hfilter : ¬ (parsed.predicate.name = containsName ∧ ¬ parsed.isMultiField) :=
        fun hname => hname.2 (h.isMultiField parsed (by rw [named?, hparse]; rfl) hname.1)
      show Except.ok (if _ then _ else _) = _
      rw [if_neg hfilter]
      rfl

theorem follows_groupEntry {key : String} (hkey : compiler.IsConditionKey key) (value : Value) :
    Follows Contribution.filter? (compiler.contribution compiler.declared key value)
      (compiler.groupEntry compiler.declared key value) := by
  rw [contribution_eq hkey.not_directive, hkey.role_eq, groupEntry]
  cases value.isBlank with
  | true => exact follows_ok _ Contribution.nothing
  | false =>
    simp only [Bool.false_eq_true, if_false]
    cases hread : value.integers with
    | error e =>
      -- Here the group may go on, but such a failure is no date.
      refine follows_of_not_date _ (fun s reason he => ?_) _
      rcases integers_error hread with ⟨_, rfl⟩ | ⟨_, rfl⟩ <;> cases he
    | ok read =>
      cases compiler.parseKey key with
      | error e => exact follows_error _ e
      | ok parsed =>
        cases parsed with
        | none => exact follows_ok _ Contribution.nothing
        | some parsed =>
          show Follows _ ((compiler.filterClause compiler.declared parsed read).map _)
            ((compiler.filterClause compiler.declared parsed read).bind _)
          cases compiler.filterClause compiler.declared parsed read with
          | error e => exact follows_error _ e
          | ok clause => exact follows_ok _ (Contribution.filter clause)

/-! ## One group -/

theorem groupFilters_eq_mapM (schema : Schema) (entries : List (Value × Value)) :
    compiler.groupFilters schema entries =
      (entries.mapM fun entry => compiler.groupEntry schema entry.1.display entry.2).map
        fun filters => filters.flatMap Option.toList := by
  induction entries with
  | nil => rfl
  | cons entry rest ih =>
    rw [groupFilters, List.mapM_cons, ih]
    cases compiler.groupEntry schema entry.1.display entry.2 with
    | error e => rfl
    | ok first =>
      show Except.bind (Except.map _ _) _ = Except.map _ (Except.bind _ _)
      cases rest.mapM fun entry => compiler.groupEntry schema entry.1.display entry.2 <;> rfl

theorem filtersOf_eq (cs : List Contribution) :
    (cs.map Contribution.filter?).flatMap Option.toList = filtersOf cs := by
  induction cs with
  | nil => rfl
  | cons c rest ih =>
    rw [List.map_cons, List.flatMap_cons, ih]
    cases c <;> rfl

/-- What is wrong with a schema is not a date. -/
theorem schema_ne_unreadableDate {model : Model} (s reason : String) :
    model.schema ≠ .error (.unreadableDate s reason) := by
  cases model with
  | absent | indexed _ _ _ => exact fun h => nomatch h
  | describing types columns =>
    intro h
    rcases bind_eq_error h with hread | ⟨given, _, hgiven⟩
    · rcases types with _ | (_ | _) <;> cases hread
    · split at hgiven
      · cases hgiven
      · cases columns with
        | described _ => cases hgiven
        | undescribed value =>
          rw [Model.Columns.schema] at hgiven
          split at hgiven <;> cases hgiven

theorem clauseParams_eq_self {params : Params}
    (h : ∀ entry ∈ params, ¬ (entry.1 = sortKey ∨ entry.1 = modeKey)) :
    clauseParams params = params := by
  induction params with
  | nil => rfl
  | cons entry rest ih =>
    rw [clauseParams_cons, if_neg (h entry List.mem_cons_self),
      ih fun other hother => h other (List.mem_cons_of_mem _ hother)]

/-- The filters of a group are those that its entries compile to as parameters. -/
theorem follows_groupFilters {params : Params}
    (hkeys : ∀ entry ∈ params, compiler.IsConditionKey entry.1) :
    Follows CompiledQuery.filters (compiler.compile params source).1
      (compiler.groupFilters compiler.declared (Value.textEntries params)) := by
  have hsort : sortOf params = .ok SortField.defaults :=
    sortOf_eq_of_forall_ne fun entry hentry => (hkeys entry hentry).ne_sortKey
  cases hschema : compiler.model.schema with
  | error e =>
    rw [compile_of_schema_error hsort hschema]
    exact follows_of_not_date _
      (fun s reason he => schema_ne_unreadableDate s reason (he ▸ hschema)) _
  | ok schema =>
    rw [compile_eq_map hschema hsort, groupFilters_eq_mapM,
      clauseParams_eq_self fun entry hentry => (hkeys entry hentry).not_directive]
    refine Follows.map (f := List.map Contribution.filter?) ?_ filtersOf_eq
    refine follows_mapM ?_
    rw [Value.textEntries, List.forall₂_map_right_iff, List.forall₂_same]
    exact fun entry hentry => follows_groupEntry (hkeys entry hentry) entry.2

/-! ## All groups -/

/-- The filter of groups that have the given filters, if there are any: a document has to satisfy
all filters of one of them. -/
def groupedFilters (groups : List (List Clause)) : List Clause :=
  match groups.filter (fun filters => !filters.isEmpty) with
  | [] => []
  | kept => [.anyOf (kept.map .allOf)]

theorem groupBranches_eq_mapM (schema : Schema) (groups : List Params) :
    compiler.groupBranches schema (groups.map .record) =
      (groups.mapM fun group => compiler.groupFilters schema (Value.textEntries group)).map
        fun filters => (filters.filter fun filters => !filters.isEmpty).map .allOf := by
  induction groups with
  | nil => rfl
  | cons group rest ih =>
    rw [List.map_cons, Value.record, groupBranches, List.mapM_cons, ih, Value.textEntries]
    cases compiler.groupFilters schema (group.map fun field => (.text field.1, field.2)) with
    | error e => rfl
    | ok filters =>
      show Except.bind (Except.map _ _) _ = Except.map _ (Except.bind _ _)
      cases rest.mapM fun group => compiler.groupFilters schema (Value.textEntries group) with
      | error e => rfl
      | ok others => cases filters <;> rfl

/-- The value of a group parameter, as a list or as a map from any names. -/
def IsGroups (groups : List Params) (value : Value) : Prop :=
  value = .list (groups.map .record) ∨
    ∃ names : List Value, names.length = groups.length ∧
      value = .map (names.zip (groups.map .record))

theorem IsGroups.groupsOf_eq {groups : List Params} {value : Value} (h : IsGroups groups value) :
    groupsOf value = some (groups.map .record) := by
  rcases h with rfl | ⟨names, hlength, rfl⟩
  · rfl
  · rw [groupsOf, List.map_snd_zip (by rw [List.length_map, hlength])]

theorem IsGroups.isBlank_eq {groups : List Params} {value : Value} (h : IsGroups groups value) :
    value.isBlank = groups.isEmpty := by
  rcases h with rfl | ⟨names, hlength, rfl⟩
  · cases groups <;> rfl
  · cases groups <;> cases names <;> first | rfl | cases hlength

theorem IsGroups.integers_eq {groups : List Params} {value : Value} (h : IsGroups groups value) :
    value.integers = .ok value := by
  rcases h with rfl | ⟨names, hlength, rfl⟩
  · cases groups <;> rfl
  · rfl

/-- Groups contribute their filter, in whichever way they are given. -/
theorem contribution_groups {groups : List Params} {value : Value} (h : IsGroups groups value) :
    compiler.contribution compiler.declared groupKey value =
      (compiler.groupBranches compiler.declared (groups.map .record)).map fun branches =>
        if branches.isEmpty then .nothing else .filter (.anyOf branches) := by
  have hrole : compiler.role groupKey = .ok .groups := by
    rw [role, if_neg (by decide), if_neg (by decide), if_pos rfl]
  rw [contribution_eq (by decide), h.isBlank_eq, h.integers_eq, hrole]
  cases groups with
  | nil => rfl
  | cons group rest =>
    show Except.map _ (compiler.groupClause compiler.declared value) = _
    rw [groupClause, h.groupsOf_eq]
    show Except.map _ (Except.bind _ _) = _
    cases compiler.groupBranches compiler.declared ((group :: rest).map .record) with
    | error e => rfl
    | ok branches => cases branches <;> rfl

/-- Groups compile to their filter alone. -/
theorem compile_eq_groupFilters {groups : List Params} {value : Value} (h : IsGroups groups value)
    {schema : Option Schema} (hschema : compiler.model.schema = .ok schema) :
    (compiler.compile [(groupKey, value)] source).1 =
      (groups.mapM fun group =>
        compiler.groupFilters compiler.declared (Value.textEntries group)).map fun filters =>
          ⟨none, groupedFilters filters, SortField.defaults, compiler.fields⟩ := by
  have hkey : ¬ (groupKey = sortKey ∨ groupKey = modeKey) := by decide
  rw [compile_singleton hschema hkey, contribution_groups h, groupBranches_eq_mapM]
  cases groups.mapM fun group =>
      compiler.groupFilters compiler.declared (Value.textEntries group) with
  | error e => rfl
  | ok filters =>
    show Except.ok (CompiledQuery.mk _ _ _ _) = Except.ok (CompiledQuery.mk _ _ _ _)
    dsimp only
    rw [groupedFilters]
    generalize filters.filter (fun filters => !filters.isEmpty) = kept
    cases kept <;> rfl

/-- Groups follow their compilations as parameters. -/
theorem follows_compile_groups {groups : List Params}
    (hkeys : ∀ group ∈ groups, ∀ entry ∈ group, compiler.IsConditionKey entry.1) {value : Value}
    (h : IsGroups groups value) {schema : Option Schema}
    (hschema : compiler.model.schema = .ok schema) :
    Follows
      (fun parts => (⟨none, groupedFilters (parts.map CompiledQuery.filters), SortField.defaults,
        compiler.fields⟩ : CompiledQuery))
      (groups.mapM fun group => (compiler.compile group source).1)
      (compiler.compile [(groupKey, value)] source).1 := by
  rw [compile_eq_groupFilters h hschema]
  have hgroups : Follows (List.map CompiledQuery.filters)
      (groups.mapM fun group => (compiler.compile group source).1)
      (groups.mapM fun group =>
        compiler.groupFilters compiler.declared (Value.textEntries group)) :=
    follows_mapM (List.forall₂_same.mpr fun group hgroup =>
      follows_groupFilters (hkeys group hgroup))
  exact hgroups.map_right fun filters =>
    CompiledQuery.mk none (groupedFilters filters) SortField.defaults compiler.fields

/-! ## The result -/

/-- A schema that compiling got past has been read. -/
theorem exists_schema_of_compile {params : Params}
    (h : (∃ compiled, (compiler.compile params source).1 = .ok compiled) ∨
      ∃ s reason, (compiler.compile params source).1 = .error (.unreadableDate s reason)) :
    ∃ schema, compiler.model.schema = .ok schema := by
  obtain ⟨sort, hsort⟩ : ∃ sort, sortOf params = .ok sort := by
    rw [exists_sortOf_iff]
    by_contra hnot
    rw [compile_of_not_hasReadableSort hnot] at h
    rcases h with ⟨_, hok⟩ | ⟨_, _, herror⟩
    · cases hok
    · cases herror
  cases hschema : compiler.model.schema with
  | ok schema => exact ⟨schema, rfl⟩
  | error e =>
    rw [compile_of_schema_error hsort hschema] at h
    rcases h with ⟨_, hok⟩ | ⟨s, reason, herror⟩
    · cases hok
    · exact absurd (hschema.trans (congrArg _ (Except.error.inj herror)))
        (schema_ne_unreadableDate s reason)

/-- Groups compile alike however they are given. -/
theorem compile_groups_eq {groups : List Params} {value value' : Value}
    (h : IsGroups groups value) (h' : IsGroups groups value') :
    compiler.compile [(groupKey, value)] source = compiler.compile [(groupKey, value')] source := by
  have hsort : ∀ v : Value, sortOf [(groupKey, v)] = .ok SortField.defaults := fun _ =>
    sortOf_singleton_of_ne (show groupKey ≠ sortKey by decide)
  rw [compile, compile, hsort, hsort]
  cases hschema : compiler.model.schema with
  | error e => rfl
  | ok schema =>
    have hdeclared : schema.getD [] = compiler.declared := by rw [declared, hschema]
    have hkey : ¬ (groupKey = sortKey ∨ groupKey = modeKey) := by decide
    have hparams : ∀ v : Value, clauseParams [(groupKey, v)] = [(groupKey, v)] := fun v =>
      clauseParams_eq_self (List.forall_mem_singleton.mpr hkey)
    simp only [compileWith, hparams, contributions, hdeclared, contribution_groups h,
      contribution_groups h']

/-- Groups of conditions compile as the conditions do on their own.  If all of them compile, there
is no filter when none of them has one, and otherwise one filter: any of the groups that have
filters, each as all of its filters.  If a date in one of them cannot be read, and those before it
compile, the groups fail for that date.  Whether the groups are listed or stand under names makes no
difference. -/
theorem compile_groups {groups : List Params}
    (hkeys : ∀ group ∈ groups, ∀ entry ∈ group, compiler.IsConditionKey entry.1) :
    (∀ parts, List.Forall₂ (fun group part => (compiler.compile group source).1 = .ok part) groups
        parts → (groups = [] → compiler.model.schema.isOk = true) → ∃ grouped,
      (compiler.compile [(groupKey, .list (groups.map .record))] source).1 = .ok grouped ∧
        grouped.freeText = none ∧
        grouped.filters = groupedFilters (parts.map CompiledQuery.filters)) ∧
      (∀ before group after s reason, groups = before ++ group :: after →
        (∀ earlier ∈ before, ∃ part, (compiler.compile earlier source).1 = .ok part) →
        (compiler.compile group source).1 = .error (.unreadableDate s reason) →
        (compiler.compile [(groupKey, .list (groups.map .record))] source).1 =
          .error (.unreadableDate s reason)) ∧
      ∀ names : List Value, names.length = groups.length →
        compiler.compile [(groupKey, .map (names.zip (groups.map .record)))] source =
          compiler.compile [(groupKey, .list (groups.map .record))] source := by
  refine ⟨fun parts hparts hempty => ?_,
    fun before group after s reason hgroups hbefore hdate => ?_,
    fun names hlength => compile_groups_eq (.inr ⟨names, hlength, rfl⟩) (.inl rfl)⟩
  · obtain ⟨schema, hschema⟩ : ∃ schema, compiler.model.schema = .ok schema := by
      cases hparts with
      | nil => exact exists_eq_ok (hempty rfl)
      | cons hfirst _ => exact exists_schema_of_compile (.inl ⟨_, hfirst⟩)
    exact ⟨_, (follows_compile_groups hkeys (.inl rfl) hschema).of_ok parts
      (mapM_of_forall₂ hparts), rfl, rfl⟩
  · obtain ⟨schema, hschema⟩ := exists_schema_of_compile (.inr ⟨s, reason, hdate⟩)
    refine (follows_compile_groups hkeys (.inl rfl) hschema).of_date s reason ?_
    rw [hgroups]
    exact mapM_of_first_failure hbefore hdate

/-- Groups with two conditions, with none that is not blank, and with one on two fields. -/
def statedGroups : List Params :=
  [[("state_eq", .text "open"), ("nonsense", .text "a"), ("age_gteq", .text "3")],
    [("title_present", .text " ")], [("title_or_body_cont", .text "b")]]

/-- A group with a date that cannot be read, after one without. -/
def misdatedGroups : List Params :=
  [[("state_eq", .text "open")], [("day_gteq", .text "99.01.2024")]]

theorem compile_groups_statedGroups :
    (∀ group ∈ statedGroups, ∀ entry ∈ group, plain.IsConditionKey entry.1) ∧
      (∀ group ∈ misdatedGroups, ∀ entry ∈ group, plain.IsConditionKey entry.1) ∧
      (∃ parts grouped,
        List.Forall₂ (fun group part => (plain.compile group (.constant "en")).1 = .ok part)
          statedGroups parts ∧
        (plain.compile [(groupKey, .map ([.int 0, .text "b", .null].zip
          (statedGroups.map .record)))] (.constant "en")).1 = .ok grouped ∧
        grouped.filters = groupedFilters (parts.map CompiledQuery.filters)) ∧
      ∃ reason, (plain.compile [(groupKey, .list (misdatedGroups.map .record))]
        (.constant "en")).1 = .error (.unreadableDate "99.01.2024" reason) := by
  have hstated : ∀ group ∈ statedGroups, ∀ entry ∈ group, plain.IsConditionKey entry.1 := by
    decide +kernel
  have hmisdated : ∀ group ∈ misdatedGroups, ∀ entry ∈ group, plain.IsConditionKey entry.1 := by
    decide +kernel
  obtain ⟨hcompiles, -, hnames⟩ := compile_groups hstated
  obtain ⟨-, hfails, -⟩ := compile_groups hmisdated
  refine ⟨hstated, hmisdated, ?_, ?_⟩
  · have hok : (statedGroups.mapM fun group =>
        (plain.compile group (.constant "en")).1).isOk = true := by decide +kernel
    obtain ⟨parts, hparts⟩ := exists_eq_ok hok
    obtain ⟨grouped, hgrouped, -, hfilters⟩ :=
      hcompiles parts (mapM_eq_ok hparts) fun hnil => (nomatch hnil)
    refine ⟨parts, grouped, mapM_eq_ok hparts, ?_, hfilters⟩
    rw [hnames [.int 0, .text "b", .null] rfl]
    exact hgrouped
  · have hfirst : (plain.compile [("state_eq", .text "open")] (.constant "en")).1.isOk = true := by
      decide +kernel
    have hdate : failure? (plain.compile [("day_gteq", .text "99.01.2024")] (.constant "en")).1 =
        some (.unreadableDate "99.01.2024" "no format matches '99.01.2024'") := by
      decide +kernel
    exact ⟨_, hfails [[("state_eq", .text "open")]] [("day_gteq", .text "99.01.2024")] [] _ _ rfl
      (List.forall_mem_singleton.mpr (exists_eq_ok hfirst)) (failure?_eq_some.mp hdate)⟩

end Compiler

end SearchFilter
