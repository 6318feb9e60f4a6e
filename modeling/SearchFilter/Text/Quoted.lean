import SearchFilter.Text.Printable

/-!
# Quoted text

A text inside a message or inside a printed list is quoted: it stands between single quotes, or
between double quotes when it holds a single quote and no double quote.  The backslash and the
chosen quote get a backslash, line breaks and tabs their letter, and every other character that is
not printable is written by its code point in hexadecimal, with two, four or eight digits.
-/

namespace SearchFilter.Text

/-- The digit of a number below sixteen, with small letters. -/
def hexDigit (n : Nat) : Char :=
  if n < 10 then Char.ofNat (48 + n) else Char.ofNat (87 + n)

/-- The last `width` hexadecimal digits of a number. -/
def hexNumeral : Nat → Nat → List Char
  | 0, _ => []
  | width + 1, n => hexNumeral width (n / 16) ++ [hexDigit (n % 16)]

/-- One character inside quotes of the kind `quote`. -/
def quoteChar (quote c : Char) : List Char :=
  if c == quote || c == '\\' then ['\\', c]
  else if c == '\t' then ['\\', 't']
  else if c == '\n' then ['\\', 'n']
  else if c == '\r' then ['\\', 'r']
  else if isPrintable c then [c]
  else if c.toNat < 0x100 then ['\\', 'x'] ++ hexNumeral 2 c.toNat
  else if c.toNat < 0x10000 then ['\\', 'u'] ++ hexNumeral 4 c.toNat
  else ['\\', 'U'] ++ hexNumeral 8 c.toNat

/-- The quote to use: the double one only to spare a single quote its backslash. -/
def quoteFor (cs : List Char) : Char :=
  if cs.contains '\'' && !cs.contains '"' then '"' else '\''

/-- The text between quotes, with escapes. -/
def quoted (s : String) : String :=
  let quote := quoteFor s.toList
  String.ofList (quote :: s.toList.flatMap (quoteChar quote) ++ [quote])

end SearchFilter.Text
