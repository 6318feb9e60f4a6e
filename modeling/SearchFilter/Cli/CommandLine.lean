import SearchFilter.Address.Resolver
import SearchFilter.Cli.Arguments
import SearchFilter.Cli.Command

/-!
# The command line

`Command.parse` reads the arguments of a command, and `run` gives what is printed and the exit code,
which is 2 for arguments that do not fit.  Asking for help, or for nothing at all, is answered on
the error stream and is no failure.
-/

namespace SearchFilter.Cli

open SearchFilter.Http

/-! ## Arguments -/

/-- The parameters of `compile`: query, types, fields, locale, whether names stay as they are, and
whether to be verbose. -/
def compileParameters : List Parameter :=
  [⟨"query", none, .one⟩, ⟨"type", some 't', .many⟩, ⟨"field", some 'f', .many⟩,
    ⟨"locale", none, .one⟩, ⟨"no-globalize", none, .flag⟩, ⟨"verbose", some 'v', .flag⟩]

/-- The parameters of `search`: query, index, address, page, number per page, fields, locale, and
whether to be verbose. -/
def searchParameters : List Parameter :=
  [⟨"query", none, .one⟩, ⟨"index", some 'i', .one⟩, ⟨"url", none, .one⟩, ⟨"page", some 'p', .one⟩,
    ⟨"per-page", some 'n', .one⟩, ⟨"field", some 'f', .many⟩, ⟨"locale", none, .one⟩,
    ⟨"verbose", some 'v', .flag⟩]

/-- Why arguments make no command. -/
inductive Rejection where
  /-- They ask how the command line is used. -/
  | help
  /-- They do not fit the parameters. -/
  | usage
  /-- Reading a value failed in a way that is not caught. -/
  | failed (failure : Failure)
deriving DecidableEq, Repr

/-- The first text among items, which must be there. -/
def required (items : List Item) : Except Rejection String :=
  match textsOf items with
  | text :: _ => .ok text
  | [] => .error .usage

/-- The value that the first text among items has, or a default if there is none. -/
def valueOr {α : Type} (default : α) (read : String → Option (Except Failure α))
    (items : List Item) : Except Rejection α :=
  match textsOf items with
  | [] => .ok default
  | text :: _ =>
    match read text with
    | none => .error .usage
    | some value => value.mapError .failed

/-- The command that the items of `compile` describe.  What is missing is noticed last. -/
def compileOf : List (List Item) → Except Rejection CompileCommand
  | [query, types, fields, locale, fixed, _] => do
    let types ← (listOf types).mapError .failed
    let fields ← (listOf fields).mapError .failed
    return ⟨← required query, types, fields, (textsOf locale).head?, !isOn fixed⟩
  | _ => .error .usage

/-- The command that the items of `search` describe.  What is missing is noticed last. -/
def searchOf : List (List Item) → Except Rejection SearchCommand
  | [query, index, url, page, perPage, fields, locale, _] => do
    let page ← valueOr 1 readCount page
    let perPage ← valueOr none readOptionalCount perPage
    let fields ← (listOf fields).mapError .failed
    return ⟨← required query, ← required index, (textsOf url).head?, page, perPage, fields,
      (textsOf locale).head?⟩
  | _ => .error .usage

/-- The items that arguments give to parameters. -/
def itemsOf (parameters : List Parameter) (arguments : List String) :
    Except Rejection (List (List Item)) :=
  match parse parameters arguments with
  | some items => .ok items
  | none => .error .usage

/-- The options that ask how the command line is used, or which version it has. -/
def helpOptions : List String := ["--help", "-h", "--version"]

/-- Whether an option among arguments asks for help. -/
def asksForHelp (arguments : List String) : Bool :=
  (splitAtEnd arguments).1.any helpOptions.contains

/-- Reads a command.  Asking for help comes before everything else. -/
def Command.parse : List String → Except Rejection Command
  | [] => .error .help
  | [argument] =>
    if helpOptions.contains argument then .error .help else .error .usage
  | "compile" :: arguments =>
    if asksForHelp arguments then .error .help
    else ((itemsOf compileParameters arguments).bind compileOf).map .compile
  | "search" :: arguments =>
    if asksForHelp arguments then .error .help
    else ((itemsOf searchParameters arguments).bind searchOf).map .search
  | _ => .error .usage

/-! ## Running -/

/-- How the command line is used. -/
def usageText : String :=
  "Usage: compile QUERY [options] | search QUERY --index INDEX [options]\n"

/-- The answer to arguments that ask for help. -/
def Outcome.help : Outcome :=
  ⟨0, "", usageText⟩

/-- A command whose arguments do not fit. -/
def Outcome.usage : Outcome :=
  ⟨2, "", usageText⟩

/-- Runs a command line. -/
def run {ω : Type} (server : Server ω) (environment : Environment) (arguments : List String)
    (state : ω) : Except Failure Outcome × ω :=
  match Command.parse arguments with
  | .error .help => (.ok .help, state)
  | .error .usage => (.ok .usage, state)
  | .error (.failed e) => (.error e, state)
  | .ok (.compile command) => (runCompile command, state)
  | .ok (.search command) => runSearch Address server environment command state

end SearchFilter.Cli
