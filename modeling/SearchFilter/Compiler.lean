import SearchFilter.CompiledQuery
import SearchFilter.Lucene
import SearchFilter.Model
import SearchFilter.QueryString.Params
import SearchFilter.Settings

/-!
# Compiling parameters

A set of parameters is a map from keys to values.  The keys are read as follows:

* `m` is ignored and `s` is the sort directive;
* `q_cont` and `q_eq` are free text;
* a key of one field with the predicate `cont` is a free-text term on that field, whose name is
  localized;
* `g` holds groups of filters: a document has to satisfy all filters of at least one group;
* any other key that names fields and a predicate is a filter, and a key that names none is
  ignored.

Blank values are ignored everywhere.

Compiling goes in two steps.  `Compiler.contribution` reads one parameter, on its own, as what it
contributes to the query; the first failure ends the reading.  `Compiler.texts` then writes the
free-text terms, for which it takes locales from their source in the order of the parameters.
-/

namespace SearchFilter

/-! ## Parameters -/

/-- Parameters by name. -/
abbrev Params := List (String × Value)

namespace Params

/-- The parameters given by the entries of a map: keys become text, and of two keys with one text
the later gives the value. -/
def ofEntries (entries : List (Value × Value)) : Params :=
  Entries.ofPairs (entries.map fun entry => (entry.1.display, entry.2))

/-- The parameters given by a value, which must be a map. -/
def ofValue (v : Value) : Except Failure Params :=
  v.toEntries.map ofEntries

/-- The parameters of a query string. -/
def ofQuery (query : String) : Params :=
  (QueryString.ofQuery query).map fun entry => (entry.1, entry.2.toValue)

end Params

/-- The keys of free text. -/
def freeTextKeys : List String :=
  ["q_cont", "q_eq"]

/-- The key of the sort directive. -/
def sortKey : String := "s"

/-- The key that is ignored. -/
def modeKey : String := "m"

/-- The key of groups. -/
def groupKey : String := "g"

/-- The name of the predicate that makes free-text terms. -/
def containsName : String := "cont"

/-! ## The compiler -/

/-- Everything that compiling depends on besides the parameters. -/
structure Compiler where
  model : Model
  settings : Settings
  /-- Whether names of translated fields are localized. -/
  globalize : Bool
  /-- Whether operators in free text are escaped. -/
  escape : Bool
  /-- The locale, unless it is to be asked of the settings. -/
  locale : Option String
  /-- The fields to return, unless all are. -/
  fields : Option (List String)

namespace Compiler

/-- What a caller can choose for a compiler, apart from model and settings. -/
structure Options where
  globalize : Bool
  escape : Option Bool
  locale : Option String
  fields : Option (List String)

/-- The options of a caller that chooses nothing. -/
def Options.default : Options :=
  ⟨true, none, none, none⟩

/-- The compiler for a model, with options and settings.  An empty locale and an empty list of
fields count as not chosen. -/
def make (model : Model) (options : Options) (settings : Settings) : Compiler where
  model := model
  settings := settings
  globalize := options.globalize
  escape := options.escape.getD settings.escapeFreeText
  locale := options.locale.filter (fun locale => !locale.isEmpty)
  fields := options.fields.filter (fun fields => !fields.isEmpty)

/-! ## Locales -/

/-- The name of a translated field after the start that marks it as such. -/
def translatedName? (compiler : Compiler) (field : String) : Option String :=
  let start := compiler.settings.translatedPrefix
  if compiler.globalize && Text.beginsWith start field &&
      start.toList.length < field.toList.length then
    some (String.ofList (field.toList.drop start.toList.length))
  else none

/-- The locale to use, and the source of locales after it has been asked. -/
def nextLocale (compiler : Compiler) (source : LocaleSource) : String × LocaleSource :=
  match compiler.locale with
  | some locale => (locale, source)
  | none => (source.current, source.advance)

/-- The name of a field in the current locale. -/
def localize (compiler : Compiler) (field : String) (source : LocaleSource) :
    String × LocaleSource :=
  match compiler.translatedName? field with
  | none => (field, source)
  | some name =>
    let next := compiler.nextLocale source
    (name ++ "_" ++ next.1, next.2)

/-- The names of several fields, each in the locale current at its turn. -/
def localizeAll (compiler : Compiler) : List String → LocaleSource → List String × LocaleSource
  | [], source => ([], source)
  | field :: fields, source =>
    let first := compiler.localize field source
    let rest := compiler.localizeAll fields first.2
    (first.1 :: rest.1, rest.2)

/-! ## Filters -/

/-- Reads a key with the predicates and the separator of the settings. -/
def parseKey (compiler : Compiler) (key : String) : Except Failure (Option FilterKey) :=
  FilterKey.parse compiler.settings.predicates compiler.settings.orSeparator key

/-- The type of the first field of a key, which decides how the value is read. -/
def fieldType (compiler : Compiler) (schema : Schema) (key : FilterKey) : FieldType :=
  schema.resolve compiler.settings.booleanPrefixes (key.fields.headD "")

/-- The clauses that a key makes of a typed value, one for each field. -/
def fieldClauses (key : FilterKey) (value : Value) : List Clause :=
  key.fields.map fun field => key.predicate.comparison.clause field value

/-- The clause of a key: of several fields, one has to satisfy the predicate. -/
def joined (key : FilterKey) (value : Value) : Clause :=
  match fieldClauses key value with
  | [clause] => clause
  | clauses => .anyOf clauses

/-- The filter of a key and a value. -/
def filterClause (compiler : Compiler) (schema : Schema) (key : FilterKey) (value : Value) :
    Except Failure Clause :=
  (value.coerce (compiler.fieldType schema key) compiler.settings.dateParser).map (joined key)

/-! ## Groups -/

/-- The filter of one entry of a group, if it has one. -/
def groupEntry (compiler : Compiler) (schema : Schema) (key : String) (value : Value) :
    Except Failure (Option Clause) :=
  if value.isBlank then .ok none
  else do
    match ← compiler.parseKey key with
    | none => return none
    | some parsed => return some (← compiler.filterClause schema parsed (← value.integers))

/-- The filters of the entries of a group. -/
def groupFilters (compiler : Compiler) (schema : Schema) :
    List (Value × Value) → Except Failure (List Clause)
  | [] => .ok []
  | (key, value) :: rest => do
    let first ← compiler.groupEntry schema key.display value
    let others ← compiler.groupFilters schema rest
    return first.toList ++ others

/-- The clauses of the groups that have filters.  What is not a map is no group. -/
def groupBranches (compiler : Compiler) (schema : Schema) :
    List Value → Except Failure (List Clause)
  | [] => .ok []
  | .map entries :: rest => do
    let filters ← compiler.groupFilters schema entries
    let others ← compiler.groupBranches schema rest
    return if filters.isEmpty then others else .allOf filters :: others
  | _ :: rest => compiler.groupBranches schema rest

/-- The groups of a value: the values of a map or the items of a container, but not the characters
of a text. -/
def groupsOf (value : Value) : Option (List Value) :=
  match value with
  | .map entries => some (entries.map (·.2))
  | value => if value.text?.isSome then none else value.elements?

/-- The filter of a value given as groups, if it has any. -/
def groupClause (compiler : Compiler) (schema : Schema) (value : Value) :
    Except Failure (Option Clause) :=
  match groupsOf value with
  | none => .ok none
  | some groups => do
    let branches ← compiler.groupBranches schema groups
    return if branches.isEmpty then none else some (.anyOf branches)

/-! ## Contributions -/

/-- What one parameter contributes to a query. -/
inductive Contribution where
  | nothing
  /-- A free-text term. -/
  | text (term : String)
  /-- A free-text term on one field. -/
  | words (field : String) (words : List String)
  | filter (clause : Clause)

/-- The contribution of a key that is neither free text nor groups. -/
def keyContribution (compiler : Compiler) (schema : Schema) (key : String) (value : Value) :
    Except Failure Contribution := do
  match ← compiler.parseKey key with
  | none => return .nothing
  | some parsed =>
    if parsed.predicate.name = containsName ∧ ¬ parsed.isMultiField then
      return .words (parsed.fields.headD "") (Text.words value.searchText)
    else return .filter (← compiler.filterClause schema parsed value)

/-- The contribution of a value that is not blank. -/
def valueContribution (compiler : Compiler) (schema : Schema) (key : String) (value : Value) :
    Except Failure Contribution :=
  if freeTextKeys.contains key then
    let text := value.searchText
    .ok (.text (if compiler.escape then Lucene.escape text else text))
  else if key = groupKey then
    (compiler.groupClause schema value).map fun clause => clause.elim .nothing .filter
  else compiler.keyContribution schema key value

/-- The contribution of a parameter. -/
def contribution (compiler : Compiler) (schema : Schema) (key : String) (value : Value) :
    Except Failure Contribution :=
  if value.isBlank then .ok .nothing
  else value.integers.bind (compiler.valueContribution schema key)

/-- The contributions of parameters up to the first failure, and that failure if there is one. -/
def contributions (compiler : Compiler) (schema : Schema) :
    Params → List Contribution × Option Failure
  | [] => ([], none)
  | (key, value) :: rest =>
    match compiler.contribution schema key value with
    | .error e => ([], some e)
    | .ok first =>
      let others := compiler.contributions schema rest
      (first :: others.1, others.2)

/-- The filters among contributions. -/
def filtersOf (contributions : List Contribution) : List Clause :=
  contributions.filterMap fun
    | .filter clause => some clause
    | _ => none

/-- The free-text terms of contributions, fields being named in the locale current at their turn. -/
def texts (compiler : Compiler) : List Contribution → LocaleSource → List String × LocaleSource
  | [], source => ([], source)
  | .text term :: rest, source =>
    let others := compiler.texts rest source
    (term :: others.1, others.2)
  | .words field words :: rest, source =>
    let localized := compiler.localize field source
    let others := compiler.texts rest localized.2
    (Lucene.fieldTerm localized.1 words :: others.1, others.2)
  | _ :: rest, source => compiler.texts rest source

/-! ## The compiled query -/

/-- The free-text clause of terms. -/
def freeTextClause (terms : List String) : Option Clause :=
  if terms.isEmpty then none else some (.leaf (.queryText (.text (Lucene.anyOf terms))))

/-- The parameters that contribute clauses. -/
def clauseParams (params : Params) : Params :=
  Entries.erase sortKey (Entries.erase modeKey params)

/-- The sort order of parameters. -/
def sortOf (params : Params) : Except Failure (List SortField) :=
  SortField.ofDirective ((params.lookup sortKey).getD .null)

/-- Compiles parameters with a schema, for a sort order.  The locales for the terms before a failure
have been taken from their source when the failure comes. -/
def compileWith (compiler : Compiler) (schema : Schema) (sort : List SortField) (params : Params)
    (source : LocaleSource) : Except Failure CompiledQuery × LocaleSource :=
  let read := compiler.contributions schema (clauseParams params)
  let terms := compiler.texts read.1 source
  match read.2 with
  | some e => (.error e, terms.2)
  | none => (.ok ⟨freeTextClause terms.1, filtersOf read.1, sort, compiler.fields⟩, terms.2)

/-- Compiles parameters, and gives the source of locales as it is left.  The sort directive is read
first, then the schema of the model. -/
def compile (compiler : Compiler) (params : Params) (source : LocaleSource) :
    Except Failure CompiledQuery × LocaleSource :=
  match sortOf params with
  | .error e => (.error e, source)
  | .ok sort =>
    match compiler.model.schema with
    | .error e => (.error e, source)
    | .ok schema => compiler.compileWith (schema.getD []) sort params source

end Compiler

end SearchFilter
