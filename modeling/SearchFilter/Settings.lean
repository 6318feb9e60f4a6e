import SearchFilter.Coercion
import SearchFilter.FilterKey

/-!
# Settings

What can be set for all searches of a program, and the store that holds the settings of the process.

The locale is asked for anew each time it is needed and may change from one time to the next;
`LocaleSource` is the row of answers still to come.

The settings of the process can be changed only until they are read for the first time.
-/

namespace SearchFilter

/-! ## Locales -/

/-- The locales that will be given one after the other; the last one is given for ever. -/
structure LocaleSource where
  current : String
  later : List String
deriving DecidableEq, Repr

namespace LocaleSource

/-- The same locale every time. -/
def constant (locale : String) : LocaleSource :=
  ⟨locale, []⟩

/-- The source after one locale has been given. -/
def advance (source : LocaleSource) : LocaleSource :=
  match source.later with
  | [] => source
  | next :: rest => ⟨next, rest⟩

end LocaleSource

/-! ## Settings -/

/-- What can be set. -/
structure Settings where
  predicates : List Predicate
  dateParser : DateParser
  locale : LocaleSource
  /-- How the names of boolean fields begin. -/
  booleanPrefixes : List String
  /-- How the names of translated fields begin. -/
  translatedPrefix : String
  orSeparator : String
  defaultPerPage : Int
  escapeFreeText : Bool

namespace Settings

/-- The settings of a program that sets nothing. -/
def default : Settings where
  predicates := Predicate.defaults
  dateParser := DateParser.default
  locale := .constant "en"
  booleanPrefixes := ["is_"]
  translatedPrefix := "translations_"
  orSeparator := FilterKey.defaultSeparator
  defaultPerPage := 50
  escapeFreeText := true

/-- The change of one setting. -/
inductive Change where
  | predicates (predicates : List Predicate)
  | dateParser (parser : DateParser)
  | locale (source : LocaleSource)
  | booleanPrefixes (starts : List String)
  | translatedPrefix (start : String)
  | orSeparator (separator : String)
  | defaultPerPage (count : Int)
  | escapeFreeText (escape : Bool)
  /-- There is no setting of this name. -/
  | unknown (name : String)

/-- Whether the setting to be changed exists. -/
def Change.isKnown : Change → Bool
  | unknown _ => false
  | _ => true

/-- The settings after one change. -/
def apply (settings : Settings) : Change → Settings
  | .predicates predicates => { settings with predicates }
  | .dateParser dateParser => { settings with dateParser }
  | .locale locale => { settings with locale }
  | .booleanPrefixes booleanPrefixes => { settings with booleanPrefixes }
  | .translatedPrefix translatedPrefix => { settings with translatedPrefix }
  | .orSeparator orSeparator => { settings with orSeparator }
  | .defaultPerPage defaultPerPage => { settings with defaultPerPage }
  | .escapeFreeText escapeFreeText => { settings with escapeFreeText }
  | .unknown _ => settings

/-- The settings after several changes, all of which must be of settings that exist. -/
def applyAll (settings : Settings) (changes : List Change) : Except Failure Settings :=
  if changes.all Change.isKnown then .ok (changes.foldl apply settings) else .error .wrongType

end Settings

/-! ## The settings of the process -/

/-- The settings of the process, and whether they have been read. -/
structure SettingsStore where
  settings : Settings
  inUse : Bool

namespace SettingsStore

/-- The store at the start of the process. -/
def initial : SettingsStore :=
  ⟨.default, false⟩

/-- Reads the settings, after which they cannot be changed. -/
def read (store : SettingsStore) : Settings × SettingsStore :=
  (store.settings, { store with inUse := true })

/-- Changes settings that have not been read, and gives the new ones.  If one of the changes is
refused, none is made. -/
def configure (changes : List Settings.Change) (store : SettingsStore) :
    Except Failure Settings × SettingsStore :=
  if store.inUse then (.error .settingsInUse, store)
  else match store.settings.applyAll changes with
    | .ok settings => (.ok settings, { store with settings })
    | .error e => (.error e, store)

/-- The settings to use where some may be given: given settings leave the store as it is. -/
def choose (given : Option Settings) (store : SettingsStore) : Settings × SettingsStore :=
  match given with
  | some settings => (settings, store)
  | none => store.read

/-- Records that locales have been taken from the source of the process. -/
def withLocale (source : LocaleSource) (store : SettingsStore) : SettingsStore :=
  { store with settings := { store.settings with locale := source } }

end SettingsStore

end SearchFilter
