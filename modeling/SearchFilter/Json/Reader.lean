import SearchFilter.Value.Display

/-!
# Reading JSON

`parse` reads one JSON value, with blanks around it, from a text.  Beyond the grammar of JSON it
accepts the names `NaN`, `Infinity` and `-Infinity`.  Numerals without fraction and exponent become
integers of any size, others the nearest double.  Of two members with one name the later gives the
value and the earlier the place.

The readers of values take a bound on the number of nested or following values; the length of the
text is always enough.
-/

namespace SearchFilter.Json

open SearchFilter.Number

/-- What a reader gives: a result and the characters after it. -/
abbrev Read (α : Type) := Except Failure (α × List Char)

/-- The blanks between the parts of a JSON text. -/
def isSpace (c : Char) : Bool :=
  c == ' ' || c == '\t' || c == '\n' || c == '\r'

/-- The characters after leading blanks. -/
def skipSpace (cs : List Char) : List Char :=
  cs.dropWhile isSpace

/-! ## Strings -/

/-- The value of a hexadecimal digit. -/
def hexValue? (c : Char) : Option Nat :=
  if '0' ≤ c && c ≤ '9' then some (c.toNat - 48)
  else if 'a' ≤ c && c ≤ 'f' then some (c.toNat - 87)
  else if 'A' ≤ c && c ≤ 'F' then some (c.toNat - 55)
  else none

/-- The number written by four hexadecimal digits. -/
def codeUnit? (a b c d : Char) : Option Nat :=
  match hexValue? a, hexValue? b, hexValue? c, hexValue? d with
  | some i, some j, some k, some l => some (((i * 16 + j) * 16 + k) * 16 + l)
  | _, _, _, _ => none

/-- Whether a code unit is the first half of a surrogate pair. -/
def isHighSurrogate (n : Nat) : Bool :=
  0xD800 ≤ n && n < 0xDC00

/-- Whether a code unit is the second half of a surrogate pair. -/
def isLowSurrogate (n : Nat) : Bool :=
  0xDC00 ≤ n && n < 0xE000

/-- The character of a code unit that stands alone; half a pair has none and is replaced. -/
def loneChar (n : Nat) : Char :=
  if isHighSurrogate n || isLowSurrogate n then '\uFFFD' else Char.ofNat n

/-- The character of a surrogate pair. -/
def pairChar (high low : Nat) : Char :=
  Char.ofNat (0x10000 + (high - 0xD800) * 1024 + (low - 0xDC00))

/-- The character that a backslash and a letter stand for. -/
def escaped? : Char → Option Char
  | '"' => some '"'
  | '\\' => some '\\'
  | '/' => some '/'
  | 'b' => some '\x08'
  | 'f' => some '\x0C'
  | 'n' => some '\n'
  | 'r' => some '\r'
  | 't' => some '\t'
  | _ => none

/-- Adds a character in front of a string that has been read. -/
def consRead (c : Char) (read : Read (List Char)) : Read (List Char) :=
  read.map fun result => (c :: result.1, result.2)

/-- The characters of a string after its opening quote. -/
def readString : List Char → Read (List Char)
  | [] => .error .malformedJson
  | '"' :: rest => .ok ([], rest)
  | '\\' :: 'u' :: a :: b :: c :: d :: rest =>
    match codeUnit? a b c d with
    | none => .error .malformedJson
    | some high =>
      match rest with
      | '\\' :: 'u' :: e :: f :: g :: h :: rest' =>
        match codeUnit? e f g h with
        | some low =>
          if isHighSurrogate high && isLowSurrogate low then
            consRead (pairChar high low) (readString rest')
          else consRead (loneChar high) (readString ('\\' :: 'u' :: e :: f :: g :: h :: rest'))
        | none => .error .malformedJson
      | rest => consRead (loneChar high) (readString rest)
  | '\\' :: c :: rest =>
    match escaped? c with
    | some plain => consRead plain (readString rest)
    | none => .error .malformedJson
  | c :: rest =>
    if c == '\\' || c.toNat < 32 then .error .malformedJson
    else consRead c (readString rest)

/-! ## Numbers -/

/-- The digits after a mark, if the mark is there and at least one digit follows. -/
def digitsAfter (isMark : Char → Bool) (cs : List Char) : Option (List Char × List Char) :=
  match cs with
  | c :: rest =>
    let digits := rest.takeWhile Text.isAsciiDigit
    if isMark c && !digits.isEmpty then some (digits, rest.dropWhile Text.isAsciiDigit) else none
  | [] => none

/-- An exponent: its sign, its digits, and what follows. -/
def readExponent (cs : List Char) : Option (Int × List Char) :=
  let isMark (c : Char) : Bool := c == 'e' || c == 'E'
  match cs with
  | e :: '-' :: rest =>
    if isMark e then
      (digitsAfter (· == '-') ('-' :: rest)).map fun read => (-(valueOf read.1 : Int), read.2)
    else none
  | e :: '+' :: rest =>
    if isMark e then
      (digitsAfter (· == '+') ('+' :: rest)).map fun read => ((valueOf read.1 : Int), read.2)
    else none
  | cs => (digitsAfter isMark cs).map fun read => ((valueOf read.1 : Int), read.2)

/-- A number after its sign. -/
def readMagnitude (negative : Bool) (cs : List Char) : Read Value :=
  let digits := match cs with
    | '0' :: _ => ['0']
    | cs => cs.takeWhile Text.isAsciiDigit
  let rest := cs.drop digits.length
  let fraction := (digitsAfter (· == '.') rest).getD ([], rest)
  let exponent := readExponent fraction.2
  if digits.isEmpty then .error .malformedJson
  else if fraction.1.isEmpty && exponent.isNone then
    if digits.length > digitLimit then .error (.numeralTooLong digits.length)
    else
      let n : Int := valueOf digits
      .ok (.int (if negative then -n else n), rest)
  else
    let power := (exponent.getD (0, fraction.2)).1 - fraction.1.length
    .ok (.float (.ofDecimal negative (valueOf (digits ++ fraction.1)) power),
      (exponent.getD (0, fraction.2)).2)

/-! ## Values -/

/-- The values written by a name. -/
def names : List (List Char × Value) :=
  [("null".toList, .null), ("true".toList, .bool true), ("false".toList, .bool false),
    ("NaN".toList, .float .nan), ("Infinity".toList, .float (.infinite false)),
    ("-Infinity".toList, .float (.infinite true))]

/-- A value written by a name or as a number. -/
def readScalar (cs : List Char) : Read Value :=
  match names.find? (fun entry => entry.1.isPrefixOf cs) with
  | some entry => .ok (entry.2, cs.drop entry.1.length)
  | none =>
    match cs with
    | '-' :: rest => readMagnitude true rest
    | _ => readMagnitude false cs

mutual

/-- A value at the head of the characters. -/
def readValue : Nat → List Char → Read Value
  | 0, _ => .error .malformedJson
  | bound + 1, cs =>
    match cs with
    | '"' :: rest =>
      match readString rest with
      | .ok (s, rest) => .ok (.text (String.ofList s), rest)
      | .error e => .error e
    | '[' :: rest =>
      match skipSpace rest with
      | ']' :: rest => .ok (.list [], rest)
      | rest =>
        match readItems bound rest with
        | .ok (items, rest) => .ok (.list items, rest)
        | .error e => .error e
    | '\x7b' :: rest =>
      match skipSpace rest with
      | '\x7d' :: rest => .ok (.map [], rest)
      | rest =>
        match readMembers bound rest with
        | .ok (members, rest) => .ok (.mapOf members, rest)
        | .error e => .error e
    | cs => readScalar cs

/-- The items of an array that has at least one, up to its closing bracket. -/
def readItems : Nat → List Char → Read (List Value)
  | 0, _ => .error .malformedJson
  | bound + 1, cs =>
    match readValue bound cs with
    | .error e => .error e
    | .ok (item, rest) =>
      match skipSpace rest with
      | ']' :: rest => .ok ([item], rest)
      | ',' :: rest =>
        match readItems bound (skipSpace rest) with
        | .ok (items, rest) => .ok (item :: items, rest)
        | .error e => .error e
      | _ => .error .malformedJson

/-- The members of an object that has at least one, up to its closing brace. -/
def readMembers : Nat → List Char → Read (List (Value × Value))
  | 0, _ => .error .malformedJson
  | bound + 1, cs =>
    match cs with
    | '"' :: rest =>
      match readString rest with
      | .error e => .error e
      | .ok (name, rest) =>
        match skipSpace rest with
        | ':' :: rest =>
          match readValue bound (skipSpace rest) with
          | .error e => .error e
          | .ok (value, rest) =>
            match skipSpace rest with
            | '\x7d' :: rest => .ok ([(.text (String.ofList name), value)], rest)
            | ',' :: rest =>
              match readMembers bound (skipSpace rest) with
              | .ok (members, rest) => .ok ((.text (String.ofList name), value) :: members, rest)
              | .error e => .error e
            | _ => .error .malformedJson
        | _ => .error .malformedJson
    | _ => .error .malformedJson

end

/-- The value written by a text.  A byte order mark at its start is ignored. -/
def parse (text : String) : Except Failure Value :=
  let cs := match text.toList with
    | '\uFEFF' :: cs => cs
    | cs => cs
  match readValue (cs.length + 1) (skipSpace cs) with
  | .error e => .error e
  | .ok (value, rest) => if (skipSpace rest).isEmpty then .ok value else .error .malformedJson

end SearchFilter.Json
