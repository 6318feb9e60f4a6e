import SearchFilter.Failure
import SearchFilter.Text.Blank
import SearchFilter.Text.Digit

/-!
# Numerals

Writing natural numbers in decimal, and reading integers from text.  Integers that come from
outside or go there have a greatest number of digits.

A numeral may be surrounded by blanks, may carry a sign, may use the decimal digits of any script,
and may have single underscores between its digits.  The rarely used information separators
U+001C to U+001F count as blanks elsewhere, but not around a numeral.
-/

namespace SearchFilter.Number

open SearchFilter.Text

/-! ## Writing -/

/-- The decimal numeral of a natural number. -/
def numeral (n : Nat) : String :=
  String.ofList (Nat.toDigits 10 n)

/-- The decimal numeral of an integer. -/
def signedNumeral : Int → String
  | .ofNat n => numeral n
  | .negSucc n => "-" ++ numeral (n + 1)

/-- The most digits that a numeral may have, to be read or written. -/
def digitLimit : Nat := 4300

/-- The decimal numeral of an integer that is not too long to be written. -/
def writtenNumeral (n : Int) : Except Failure String :=
  if (numeral n.natAbs).length ≤ digitLimit then .ok (signedNumeral n) else .error .integerTooLong

/-- A numeral of at least `width` digits, filled with zeros on the left. -/
def padded (width n : Nat) : String :=
  let digits := Nat.toDigits 10 n
  String.ofList (List.replicate (width - digits.length) '0' ++ digits)

/-! ## Reading -/

/-- The value of a row of digits; other characters count as zero. -/
def valueOf (digits : List Char) : Nat :=
  digits.foldl (fun value c => value * 10 + (digitValue? c).getD 0) 0

/-- A character in the alphabet of numerals: digits of other scripts become ASCII digits, blanks
outside ASCII become the space, and what cannot belong to a numeral becomes a question mark. -/
def plain (c : Char) : Char :=
  if c.toNat < 128 then c
  else if isBlank c then ' '
  else match digitValue? c with
    | some value => Char.ofNat (48 + value)
    | none => '?'

/-- The blanks that may surround a numeral. -/
def isMargin (c : Char) : Bool :=
  c == ' ' || (9 ≤ c.toNat && c.toNat ≤ 13)

/-- The characters between the sign and the end of a numeral. -/
def isNumeralChar (c : Char) : Bool :=
  isAsciiDigit c || c == '_'

/-- Splits a sign off. -/
def takeSign : List Char → Bool × List Char
  | '-' :: cs => (true, cs)
  | '+' :: cs => (false, cs)
  | cs => (false, cs)

/-- Every underscore of the row stands between two digits, and there is a digit. -/
def wellGrouped (row : List Char) : Bool :=
  (pieces (· == '_') row).all (fun group => !group.isEmpty)

/-- The integer that a text denotes. -/
def readInteger (text : String) : Except Failure Int :=
  let signed := takeSign ((text.toList.map plain).dropWhile isMargin)
  let row := signed.2.takeWhile isNumeralChar
  let digits := row.filter isAsciiDigit
  if !wellGrouped row then .error (.notAnInteger text)
  else if digits.length > digitLimit then .error (.numeralTooLong digits.length)
  else if !(signed.2.dropWhile isNumeralChar).all isMargin then .error (.notAnInteger text)
  else if signed.1 then .ok (-(valueOf digits : Int))
  else .ok (valueOf digits)

/-- Whether the trimmed text is an optional minus sign and one or more decimal digits of any
script. -/
def isIntegerLike (text : String) : Bool :=
  let digits := match trim text.toList with
    | '-' :: cs => cs
    | cs => cs
  !digits.isEmpty && digits.all isDigit

end SearchFilter.Number
