import Mathlib.Data.List.Induction
import SearchFilter.Search

/-!
# The settings of a run

A program changes the settings of the process, reads them, and makes compilers and searches, which
read them unless they are given settings of their own.  `SettingsStore.step` is one such step, and
`SettingsStore.after` the store that a run of steps leaves behind.

* `Settings.get` looks at one setting, and `get_foldl_apply` says that of several changes of it the
  last one counts.
* `SettingsStore.madeChanges` are the changes that a run has made: those before its first reading
  step, apart from the refused ones.  They are read off the steps alone.
* `SettingsStore.after_eq` is the invariant: a run leaves the default settings with these changes
  made, in use exactly if one of the steps was a reading one.
* `SettingsStore.step_after` is the result: what each step of a run answers and leaves behind.
-/

namespace SearchFilter

/-! ## Single settings -/

/-- The names of the settings. -/
inductive Setting where
  | predicates
  | dateParser
  | locale
  | booleanPrefixes
  | translatedPrefix
  | orSeparator
  | defaultPerPage
  | escapeFreeText
deriving DecidableEq, Repr

/-- What a setting can be set to. -/
def Setting.Carrier : Setting → Type
  | predicates => List Predicate
  | dateParser => DateParser
  | locale => LocaleSource
  | booleanPrefixes => List String
  | translatedPrefix => String
  | orSeparator => String
  | defaultPerPage => Int
  | escapeFreeText => Bool

namespace Settings

/-- One of the settings. -/
def get (settings : Settings) : (setting : Setting) → setting.Carrier
  | .predicates => settings.predicates
  | .dateParser => settings.dateParser
  | .locale => settings.locale
  | .booleanPrefixes => settings.booleanPrefixes
  | .translatedPrefix => settings.translatedPrefix
  | .orSeparator => settings.orSeparator
  | .defaultPerPage => settings.defaultPerPage
  | .escapeFreeText => settings.escapeFreeText

/-- The settings that are the given ones, one by one. -/
def ofValues (values : (setting : Setting) → setting.Carrier) : Settings where
  predicates := values .predicates
  dateParser := values .dateParser
  locale := values .locale
  booleanPrefixes := values .booleanPrefixes
  translatedPrefix := values .translatedPrefix
  orSeparator := values .orSeparator
  defaultPerPage := values .defaultPerPage
  escapeFreeText := values .escapeFreeText

/-- What a change sets a setting to, if it changes this one. -/
def Change.value? : Change → (setting : Setting) → Option setting.Carrier
  | .predicates value, .predicates => some value
  | .dateParser value, .dateParser => some value
  | .locale value, .locale => some value
  | .booleanPrefixes value, .booleanPrefixes => some value
  | .translatedPrefix value, .translatedPrefix => some value
  | .orSeparator value, .orSeparator => some value
  | .defaultPerPage value, .defaultPerPage => some value
  | .escapeFreeText value, .escapeFreeText => some value
  | _, _ => none

/-- What the last change of a setting sets it to. -/
def lastValue? (changes : List Change) (setting : Setting) : Option setting.Carrier :=
  changes.reverse.findSome? fun change => change.value? setting

@[simp]
theorem get_ofValues (values : (setting : Setting) → setting.Carrier) (setting : Setting) :
    (ofValues values).get setting = values setting := by
  cases setting <;> rfl

theorem ext_get {settings settings' : Settings}
    (h : ∀ setting, settings.get setting = settings'.get setting) : settings = settings' := by
  cases settings
  cases settings'
  rw [Settings.mk.injEq]
  exact ⟨h .predicates, h .dateParser, h .locale, h .booleanPrefixes, h .translatedPrefix,
    h .orSeparator, h .defaultPerPage, h .escapeFreeText⟩

/-- A change sets its own setting and leaves the others. -/
theorem get_apply (settings : Settings) (change : Change) (setting : Setting) :
    (settings.apply change).get setting =
      (change.value? setting).getD (settings.get setting) := by
  cases change <;> cases setting <;> rfl

/-- Of several changes of a setting the last one counts. -/
theorem get_foldl_apply (changes : List Change) (settings : Settings) (setting : Setting) :
    (changes.foldl apply settings).get setting =
      (lastValue? changes setting).getD (settings.get setting) := by
  induction changes using List.reverseRecOn with
  | nil => rfl
  | append_singleton changes change ih =>
    rw [List.foldl_append, List.foldl_cons, List.foldl_nil, get_apply, ih, lastValue?, lastValue?,
      List.reverse_append, List.reverse_singleton, List.singleton_append, List.findSome?_cons]
    cases change.value? setting <;> rfl

end Settings

/-! ## Steps -/

namespace SettingsStore

/-- What settings are needed for. -/
inductive Construction where
  | compiler (model : Model) (options : Compiler.Options)
  | search (model : Model) (options : Compiler.Options) (params : Option (List (Value × Value)))
      (page perPage : Value)

/-- A step of a run. -/
inductive Step where
  | configure (changes : List Settings.Change)
  | get
  | construct (construction : Construction) (given : Option Settings)

/-- What a step gives. -/
inductive Outcome where
  | configured (settings : Except Failure Settings)
  | settings (settings : Settings)
  | compiler (compiler : Compiler)
  | search (search : Except Failure Search)

/-- What is constructed with settings. -/
def Construction.outcome (settings : Settings) : Construction → Outcome
  | .compiler model options => .compiler (Compiler.make model options settings)
  | .search model options params page perPage =>
    .search (Search.make (Compiler.make model options settings) (params.elim .null .map) page
      perPage)

/-- One step, and the store that it leaves behind. -/
def step (store : SettingsStore) : Step → Outcome × SettingsStore
  | .configure changes =>
    let result := store.configure changes
    (.configured result.1, result.2)
  | .get =>
    let taken := store.read
    (.settings taken.1, taken.2)
  | .construct construction given =>
    let taken := store.choose given
    (construction.outcome taken.1, taken.2)

/-- The store after the steps of a run. -/
def after (steps : List Step) : SettingsStore :=
  steps.foldl (fun store next => (store.step next).2) initial

/-! ## What a run has changed -/

namespace Step

/-- Whether a step reads the settings of the process. -/
def isRead : Step → Bool
  | configure _ => false
  | get => true
  | construct _ given => given.isNone

/-- The changes that a step makes as long as no settings have been read. -/
def changes : Step → List Settings.Change
  | configure changes => if changes.all Settings.Change.isKnown then changes else []
  | _ => []

/-- A step that reads the settings changes none. -/
theorem changes_of_isRead {next : Step} (h : next.isRead) : next.changes = [] := by
  cases next with
  | configure changes => simp [isRead] at h
  | get => rfl
  | construct construction given => rfl

end Step

/-- Whether the settings of the process have been read in a run. -/
def hasRead (steps : List Step) : Bool :=
  steps.any Step.isRead

/-- The changes that a run has made: those of its steps before the first reading one. -/
def madeChanges (steps : List Step) : List Settings.Change :=
  (steps.takeWhile fun next => !next.isRead).flatMap Step.changes

/-- The settings that a run has chosen: each as it was changed last, if it was changed, and by
default otherwise. -/
def chosen (steps : List Step) : Settings :=
  .ofValues fun setting =>
    (Settings.lastValue? (madeChanges steps) setting).getD (Settings.default.get setting)

theorem chosen_eq_foldl (steps : List Step) :
    chosen steps = (madeChanges steps).foldl Settings.apply .default := by
  refine Settings.ext_get fun setting => ?_
  rw [chosen, Settings.get_ofValues, Settings.get_foldl_apply]

theorem madeChanges_cons {next : Step} (h : next.isRead = false) (steps : List Step) :
    madeChanges (next :: steps) = next.changes ++ madeChanges steps := by
  simp [madeChanges, h]

/-- The changes of the steps before anything has been read are all made. -/
theorem madeChanges_append {steps : List Step} (h : hasRead steps = false) (more : List Step) :
    madeChanges (steps ++ more) = madeChanges steps ++ madeChanges more := by
  induction steps with
  | nil => rfl
  | cons next rest ih =>
    obtain ⟨hnext, hrest⟩ : next.isRead = false ∧ hasRead rest = false := by
      simpa [hasRead] using h
    rw [List.cons_append, madeChanges_cons hnext, madeChanges_cons hnext, ih hrest,
      List.append_assoc]

/-- Once something has been read, no changes are made. -/
theorem madeChanges_append_of_hasRead {steps : List Step} (h : hasRead steps) (more : List Step) :
    madeChanges (steps ++ more) = madeChanges steps := by
  induction steps with
  | nil => simp [hasRead] at h
  | cons next rest ih =>
    cases hnext : next.isRead with
    | true => simp [madeChanges, hnext]
    | false =>
      have hrest : hasRead rest := by simpa [hasRead, hnext] using h
      rw [List.cons_append, madeChanges_cons hnext, madeChanges_cons hnext, ih hrest]

/-- What one more step changes. -/
theorem madeChanges_append_singleton (steps : List Step) (next : Step) :
    madeChanges (steps ++ [next]) =
      if hasRead steps then madeChanges steps else madeChanges steps ++ next.changes := by
  cases h : hasRead steps with
  | true => exact madeChanges_append_of_hasRead h [next]
  | false =>
    have hone : madeChanges [next] = next.changes := by
      cases hnext : next.isRead with
      | true => simp [madeChanges, hnext, Step.changes_of_isRead hnext]
      | false => simp [madeChanges, hnext]
    rw [madeChanges_append h, hone]
    rfl

/-- From its first reading step on, a run chooses nothing more. -/
theorem chosen_append_of_isRead (steps : List Step) {reading : Step} (h : reading.isRead)
    (later : List Step) : chosen (steps ++ reading :: later) = chosen steps := by
  have hread : hasRead (steps ++ [reading]) := by simp [hasRead, h]
  have hchanges : madeChanges (steps ++ [reading]) = madeChanges steps := by
    rw [madeChanges_append_singleton, Step.changes_of_isRead h, List.append_nil, ite_self]
  have hlater := madeChanges_append_of_hasRead hread later
  rw [List.append_assoc, List.singleton_append, hchanges] at hlater
  rw [chosen, chosen, hlater]

/-! ## The invariant of a run -/

/-- What configuring does, in all three cases. -/
theorem configure_eq (store : SettingsStore) (changes : List Settings.Change) :
    store.configure changes =
      if store.inUse then (.error .settingsInUse, store)
      else if changes.all Settings.Change.isKnown then
        let settings := changes.foldl Settings.apply store.settings
        (.ok settings, ⟨settings, store.inUse⟩)
      else (.error .wrongType, store) := by
  unfold configure Settings.applyAll
  split
  · rfl
  · cases changes.all Settings.Change.isKnown <;> rfl

/-- One step makes its changes unless the settings are in use, and puts them in use if it reads
them. -/
theorem step_store (store : SettingsStore) (next : Step) :
    (store.step next).2 =
      ⟨if store.inUse then store.settings else next.changes.foldl Settings.apply store.settings,
        store.inUse || next.isRead⟩ := by
  obtain ⟨settings, inUse⟩ := store
  cases next with
  | configure changes =>
    simp only [step, configure_eq, Step.changes, Step.isRead]
    cases inUse <;> cases changes.all Settings.Change.isKnown <;> rfl
  | get => cases inUse <;> rfl
  | construct construction given => cases inUse <;> cases given <;> rfl

/-- A run leaves the settings that it has chosen, in use if it has read them. -/
theorem after_eq (steps : List Step) : after steps = ⟨chosen steps, hasRead steps⟩ := by
  induction steps using List.reverseRecOn with
  | nil =>
    rw [chosen_eq_foldl]
    rfl
  | append_singleton steps next ih =>
    -- The last step meets the store that the steps before it have left.
    have hrun : after (steps ++ [next]) = ((after steps).step next).2 := by
      simp only [after, List.foldl_append, List.foldl_cons, List.foldl_nil]
    have hread : hasRead (steps ++ [next]) = (hasRead steps || next.isRead) := by
      simp [hasRead]
    rw [hrun, step_store, ih, hread]
    simp only [chosen_eq_foldl, madeChanges_append_singleton]
    cases hasRead steps with
    | true => rfl
    | false => simp only [Bool.false_eq_true, if_false, List.foldl_append]

example :
    (after [.configure [.defaultPerPage 25], .get, .configure [.defaultPerPage 10]]).settings.get
      .defaultPerPage = (25 : Int) :=
  rfl

/-! ## What a step does after a run -/

/-- Settings can be changed until they are read for the first time.

* Before that, changes of settings that exist are made, one by one, and others are refused together.
* From then on all changes are refused, those of settings that do not exist as well.
* Who reads the settings gets those that have been chosen, and whatever happens later, those are
  what is chosen.
* A construction with settings of its own uses these and leaves the settings of the process as
  they are. -/
theorem step_after (steps : List Step) :
    (hasRead steps = false →
      (∀ changes, changes.all Settings.Change.isKnown →
        ∃ settings,
          (after steps).step (.configure changes) =
            (.configured (.ok settings), ⟨settings, false⟩) ∧
          ∀ setting, settings.get setting =
            (Settings.lastValue? changes setting).getD ((after steps).settings.get setting)) ∧
      ∀ changes, changes.all Settings.Change.isKnown = false →
        (after steps).step (.configure changes) =
          (.configured (.error .wrongType), after steps)) ∧
    (hasRead steps → ∀ changes,
      (after steps).step (.configure changes) =
        (.configured (.error .settingsInUse), after steps)) ∧
    ((after steps).step .get = (.settings (chosen steps), ⟨chosen steps, true⟩) ∧
      ∀ construction, (after steps).step (.construct construction none) =
        (construction.outcome (chosen steps), ⟨chosen steps, true⟩)) ∧
    (∀ reading, reading.isRead → ∀ later, chosen (steps ++ reading :: later) = chosen steps) ∧
    ∀ construction given, (after steps).step (.construct construction (some given)) =
      (construction.outcome given, after steps) := by
  refine ⟨fun hread => ⟨fun changes hknown => ?_, fun changes hunknown => ?_⟩,
    fun hread changes => ?_, ⟨?_, fun construction => ?_⟩,
    fun reading h later => chosen_append_of_isRead steps h later, fun construction given => rfl⟩
  · refine ⟨changes.foldl Settings.apply (after steps).settings, ?_,
      Settings.get_foldl_apply changes (after steps).settings⟩
    simp [step, configure_eq, after_eq, hread, hknown]
  · simp [step, configure_eq, after_eq, hread, hunknown]
  · simp [step, configure_eq, after_eq, hread]
  · rw [after_eq]
    rfl
  · rw [after_eq]
    rfl

/-- Changing a setting that does not exist is refused as such before the settings are read, and
because they are in use afterwards. -/
theorem step_after_unknown_setting :
    (after [.configure [.defaultPerPage 25]]).step (.configure [.unknown "per_page"]) =
        (.configured (.error .wrongType), after [.configure [.defaultPerPage 25]]) ∧
      (after [.configure [.defaultPerPage 25], .get]).step (.configure [.unknown "per_page"]) =
        (.configured (.error .settingsInUse), after [.configure [.defaultPerPage 25], .get]) :=
  ⟨((step_after [.configure [.defaultPerPage 25]]).1 rfl).2 [.unknown "per_page"] rfl,
    (step_after [.configure [.defaultPerPage 25], .get]).2.1 rfl [.unknown "per_page"]⟩

end SettingsStore

end SearchFilter
