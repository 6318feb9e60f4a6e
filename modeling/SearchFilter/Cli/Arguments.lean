import SearchFilter.Cli.Count
import SearchFilter.Failure
import SearchFilter.Number.Decimal
import SearchFilter.Text.Split

/-!
# Command-line arguments

A command has parameters in a fixed order.  Each can be given by an option, and the ones not given
by an option take the arguments that belong to no option, in order; a parameter for several values
takes all that are left.

* An option is written `--name value` or `--name=value`; hyphens in the name may be underscores.
* Parameters with a letter can be given by `-f value`, `-f=value` or `-fvalue`.  The letters of
  flags can stand together, and the last letter may be one that takes a value.
* A flag takes no value, but may have a truth value joined to it, `--flag=no`, and `--no-flag` is
  its opposite.
* `--empty-name` gives an empty list to a parameter for several values.
* After `--` nothing is an option.

`parse` gives what each parameter has received, or nothing when the arguments do not fit: an unknown
or repeated option, a value that is missing or looks like an option, too many arguments, or a gap in
the order of the parameters.
-/

namespace SearchFilter.Cli

open SearchFilter.Text

/-- How many values a parameter takes. -/
inductive Arity where
  /-- None: it is on or off. -/
  | flag
  | one
  | many
deriving DecidableEq, Repr

/-- A parameter of a command. -/
structure Parameter where
  name : String
  letter : Option Char
  arity : Arity
deriving DecidableEq, Repr

/-- Something that an argument gives to a parameter. -/
inductive Item where
  | value (text : String)
  | truth (on : Bool)
  /-- The empty list. -/
  | nothing
deriving DecidableEq, Repr

/-- What a parameter has received, and whether by options. -/
structure Given where
  parameter : Parameter
  items : List Item
  byOption : Bool
deriving DecidableEq, Repr

/-! ## What looks like an option -/

/-- Whether an argument looks like an option: it starts with a hyphen, does not go on with a digit,
and is not a number.  The imaginary unit is taken for an option. -/
def looksLikeOption (argument : String) : Bool :=
  match argument.toList with
  | '-' :: rest =>
    (rest == ['j'] || rest == ['J']) ||
      !(rest.head?.any isDigit || Number.isNumber argument)
  | _ => false

/-! ## The names of options -/

/-- What the name of an option asks for. -/
inductive Meaning where
  /-- The parameter itself. -/
  | plain
  /-- Its opposite: off, or empty. -/
  | opposite
deriving DecidableEq, Repr

/-- The name of the option for the opposite of a parameter. -/
def Parameter.oppositeName (parameter : Parameter) : Option String :=
  match parameter.arity with
  | .flag => some ("--no-" ++ parameter.name)
  | .many => some ("--empty-" ++ parameter.name)
  | .one => none

/-- What the name of an option means for a parameter, if anything. -/
def Parameter.meaning? (parameter : Parameter) (option : List Char) : Option Meaning :=
  let name := String.ofList (option.map fun c => if c == '_' then '-' else c)
  if name == "--" ++ parameter.name then some .plain
  else if parameter.letter.any fun letter => option == ['-', letter] then some .plain
  else if parameter.oppositeName == some name then some .opposite
  else none

/-- The parameter that the name of an option belongs to, with its meaning. -/
def optionNamed? (givens : List Given) (option : List Char) : Option (Parameter × Meaning) :=
  givens.findSome? fun given =>
    (given.parameter.meaning? option).map fun meaning => (given.parameter, meaning)

/-! ## Receiving items -/

/-- Gives an item to a parameter; only a parameter for several values takes a second one. -/
def receive (parameter : Parameter) (item : Item) : List Given → Option (List Given)
  | [] => none
  | given :: rest =>
    if given.parameter == parameter then
      if given.byOption && parameter.arity ≠ .many then none
      else some (⟨parameter, given.items ++ [item], true⟩ :: rest)
    else (receive parameter item rest).map (given :: ·)

/-- How far the reading of one argument has come. -/
inductive Step where
  /-- The argument belongs to no option. -/
  | apart
  /-- The argument is done with. -/
  | done (givens : List Given)
  /-- The parameter waits for its value, which is the next argument. -/
  | waiting (parameter : Parameter) (givens : List Given)
  /-- The argument does not fit. -/
  | refused

/-- The step that ends with an item, if the parameter takes it. -/
def Step.ofItem (parameter : Parameter) (item : Item) (givens : List Given) : Step :=
  match receive parameter item givens with
  | some givens => .done givens
  | none => .refused

/-- The step for an option that takes no value; the truth value joined to it may turn it round.  An
empty list that is turned round is no list at all. -/
def readSwitch (parameter : Parameter) (meaning : Meaning) (joined : Option (List Char))
    (givens : List Given) : Step :=
  match (joined.map fun text => readTruth (String.ofList text)).getD (some true) with
  | none => .refused
  | some sense =>
    if parameter.arity = .many then
      if sense then .ofItem parameter .nothing givens else .done givens
    else .ofItem parameter (.truth ((meaning == .plain) == sense)) givens

/-- The step for an option, with what is joined to it by an equals sign. -/
def readOption (parameter : Parameter) (meaning : Meaning) (joined : Option (List Char))
    (givens : List Given) : Step :=
  if parameter.arity = .flag || meaning = .opposite then readSwitch parameter meaning joined givens
  else match joined with
    | some text => .ofItem parameter (.value (String.ofList text)) givens
    | none => .waiting parameter givens

/-- The step for letters that stand together, and what is joined to the last one. -/
def readLetters : List Char → List Given → Step
  | [], givens => .done givens
  | letter :: rest, givens =>
    match optionNamed? givens ['-', letter] with
    | none => .refused
    | some (parameter, meaning) =>
      if parameter.arity = .flag then
        match rest with
        | '=' :: text => readSwitch parameter meaning (some text) givens
        | _ =>
          match receive parameter (.truth true) givens with
          | some givens => readLetters rest givens
          | none => .refused
      else match rest with
        | [] => .waiting parameter givens
        | '=' :: text => .ofItem parameter (.value (String.ofList text)) givens
        | text => .ofItem parameter (.value (String.ofList text)) givens

/-- The step for an argument: the name of an option, or letters of which the first is one. -/
def readArgument (argument : String) (givens : List Given) : Step :=
  let cs := argument.toList
  let cut := cutAt '=' cs
  match optionNamed? givens cut.1 with
  | some (parameter, meaning) => readOption parameter meaning cut.2 givens
  | none =>
    match cs with
    | '-' :: letter :: rest =>
      if letter ≠ '-' && cut.1.length > 2 && (optionNamed? givens ['-', letter]).isSome then
        readLetters (letter :: rest) givens
      else .apart
    | _ => .apart

/-- Reads the options among arguments and collects the others, none of which may look like an
option. -/
def readOptions : List String → List Given → Option (List Given × List String)
  | [], givens => some (givens, [])
  | argument :: rest, givens =>
    match readArgument argument givens with
    | .refused => none
    | .done givens => readOptions rest givens
    | .waiting parameter givens =>
      match rest with
      | [] => none
      | value :: rest =>
        if looksLikeOption value then none
        else (receive parameter (.value value) givens).bind (readOptions rest)
    | .apart =>
      if looksLikeOption argument then none
      else (readOptions rest givens).map fun read => (read.1, argument :: read.2)

/-! ## Positions -/

/-- Gives arguments to the parameters that no option has given, in order.  Once a parameter has been
passed over, no later one may take an argument. -/
def readPositions : Bool → List Given → List String → Option (List Given)
  | _, givens, [] => some givens
  | _, [], _ :: _ => none
  | passedOver, given :: givens, argument :: rest =>
    if given.byOption then (readPositions true givens (argument :: rest)).map (given :: ·)
    else if passedOver then none
    else match given.parameter.arity with
      | .many => some ({ given with items := (argument :: rest).map .value } :: givens)
      | _ =>
        (readPositions false givens rest).map ({ given with items := [.value argument] } :: ·)

/-- The arguments before and after the first `--`. -/
def splitAtEnd : List String → List String × List String
  | [] => ([], [])
  | argument :: rest =>
    if argument == "--" then ([], rest)
    else
      let split := splitAtEnd rest
      (argument :: split.1, split.2)

/-- What each parameter has received, in the order of the parameters. -/
def parse (parameters : List Parameter) (arguments : List String) : Option (List (List Item)) :=
  let split := splitAtEnd arguments
  let start := parameters.map fun parameter => (⟨parameter, [], false⟩ : Given)
  (readOptions split.1 start).bind fun read =>
    (readPositions false read.1 (read.2 ++ split.2)).map (·.map (·.items))

/-! ## Values -/

/-- The texts among items. -/
def textsOf (items : List Item) : List String :=
  items.filterMap fun
    | .value text => some text
    | _ => none

/-- The list that items make up.  The empty list can not be given together with anything else. -/
def listOf (items : List Item) : Except Failure (List String) :=
  if items.contains .nothing && items.length ≠ 1 then .error .emptiedAndFilled
  else .ok (textsOf items)

/-- Whether items switch a flag on. -/
def isOn (items : List Item) : Bool :=
  items.contains (.truth true)

end SearchFilter.Cli
