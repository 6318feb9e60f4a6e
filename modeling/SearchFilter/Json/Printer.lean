import SearchFilter.Value.Display

/-!
# Writing JSON

Request bodies and printed answers are JSON text.  `render` writes on one line, with a space after
commas and colons, or one item a line.  Characters outside ASCII stay as they are; escaped are only
the quote, the backslash and the control characters below U+0020.

Dates and moments are written as their ISO text, tuples as arrays.  Sets, types and named constants
have no JSON form, nor have integers of too many digits.
-/

namespace SearchFilter.Json

open SearchFilter.Number

/-! ## Scalars -/

/-- One character of a JSON string. -/
def escapeChar (c : Char) : List Char :=
  if c == '"' || c == '\\' then ['\\', c]
  else if c == '\n' then ['\\', 'n']
  else if c == '\r' then ['\\', 'r']
  else if c == '\t' then ['\\', 't']
  else if c.toNat = 8 then ['\\', 'b']
  else if c.toNat = 12 then ['\\', 'f']
  else if c.toNat < 32 then ['\\', 'u'] ++ Text.hexNumeral 4 c.toNat
  else [c]

/-- A JSON string. -/
def string (s : String) : String :=
  String.ofList ('"' :: s.toList.flatMap escapeChar ++ ['"'])

/-- A double; the values that are not numbers of JSON are written by name. -/
def double : Binary64 → String
  | .nan => "NaN"
  | .infinite false => "Infinity"
  | .infinite true => "-Infinity"
  | x => x.text

/-- A truth value. -/
def truth (b : Bool) : String :=
  if b then "true" else "false"

/-- The text of a key, for the keys that JSON admits. -/
def keyText : Value → Except Failure String
  | .null => .ok "null"
  | .bool b => .ok (truth b)
  | .int n => writtenNumeral n
  | .float x => .ok (double x)
  | .text s => .ok s
  | .fieldType kind => .ok kind.name
  | _ => .error .wrongType

/-! ## Containers -/

/-- How containers are laid out: on one line, or one item a line with a number of spaces for each
level. -/
abbrev Layout := Option Nat

/-- The start of a new line at a level. -/
def newline (width level : Nat) : String :=
  String.ofList ('\n' :: List.replicate (width * level) ' ')

/-- Items between brackets, the container being at the given level. -/
def container (layout : Layout) (level : Nat) (left right : String) (items : List String) :
    String :=
  if items.isEmpty then left ++ right
  else match layout with
    | none => left ++ ", ".intercalate items ++ right
    | some width =>
      left ++ newline width (level + 1) ++
        ("," ++ newline width (level + 1)).intercalate items ++ newline width level ++ right

mutual

/-- A value at a level of nesting. -/
def renderAt (layout : Layout) (level : Nat) : Value → Except Failure String
  | .null => .ok "null"
  | .bool b => .ok (truth b)
  | .int n => writtenNumeral n
  | .float x => .ok (double x)
  | .text s => .ok (string s)
  | .list items => (renderItems layout (level + 1) items).map (container layout level "[" "]")
  | .tuple items => (renderItems layout (level + 1) items).map (container layout level "[" "]")
  | .map entries =>
    (renderEntries layout (level + 1) entries).map (container layout level "\x7b" "\x7d")
  | .date d => .ok (string d.isoText)
  | .datetime t => .ok (string t.isoText)
  | .fieldType kind => .ok (string kind.name)
  | .set _ => .error .wrongType
  | .constant _ _ => .error .wrongType
  | .type _ => .error .wrongType

/-- The items of an array. -/
def renderItems (layout : Layout) (level : Nat) : List Value → Except Failure (List String)
  | [] => .ok []
  | item :: items =>
    match renderAt layout level item, renderItems layout level items with
    | .ok first, .ok rest => .ok (first :: rest)
    | .error e, _ => .error e
    | _, .error e => .error e

/-- The members of an object. -/
def renderEntries (layout : Layout) (level : Nat) :
    List (Value × Value) → Except Failure (List String)
  | [] => .ok []
  | (key, value) :: entries =>
    match keyText key, renderAt layout level value, renderEntries layout level entries with
    | .ok name, .ok member, .ok rest => .ok ((string name ++ ": " ++ member) :: rest)
    | .error e, _, _ => .error e
    | _, .error e, _ => .error e
    | _, _, .error e => .error e

end

/-- A value as JSON text. -/
def render (layout : Layout) (v : Value) : Except Failure String :=
  renderAt layout 0 v

/-- The form in JSON of the values that have a form other than their own: dates and moments. -/
def dateText? : Value → Option String
  | .date d => some d.isoText
  | .datetime t => some t.isoText
  | _ => none

end SearchFilter.Json
