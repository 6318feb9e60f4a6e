import SearchFilter.Number.Binary64
import SearchFilter.Number.Numeral

/-!
# Decimal fractions

Reading decimal fractions such as `-1.5e3` from text.  As in integers, digits may be of any script,
single underscores may stand between them, and blanks may surround the text.

* `Decimal.read?` reads a fraction, and `Decimal.toBinary64` is the number nearest to it.
* `isNumber` recognises all texts that are numbers: fractions, the names of infinity and of what is
  not a number, and complex numbers, whose imaginary part is marked by a `j`.
-/

namespace SearchFilter.Number

open SearchFilter.Text

/-! ## The characters of a number -/

/-- A text without its underscores, each of which must stand between two digits; `afterDigit` tells
whether the text follows a digit. -/
def ungroup (afterDigit : Bool) : List Char → Option (List Char)
  | [] => some []
  | c :: cs =>
    if c == '_' then
      if afterDigit && cs.head?.any isAsciiDigit then ungroup false cs else none
    else (ungroup (isAsciiDigit c) cs).map (c :: ·)

/-- The characters of a number without what may surround and group them. -/
def bare (text : String) : Option (List Char) :=
  ungroup false (dropTrailing isMargin ((text.toList.map plain).dropWhile isMargin))

/-! ## Fractions -/

/-- The decimal fraction `± digits · 10 ^ power`. -/
structure Decimal where
  negative : Bool
  digits : Nat
  power : Int
deriving DecidableEq, Repr

/-- The exponent at the start of a text, zero if there is none, and the rest. -/
def takeExponent (cs : List Char) : Int × List Char :=
  let signed := takeSign (cs.drop 1)
  let digits := signed.2.takeWhile isAsciiDigit
  if (cs.head? == some 'e' || cs.head? == some 'E') && !digits.isEmpty then
    (if signed.1 then -(valueOf digits : Int) else valueOf digits,
      signed.2.dropWhile isAsciiDigit)
  else (0, cs)

/-- The digits behind a decimal point at the start of a text, and the rest. -/
def takeFraction : List Char → List Char × List Char
  | '.' :: cs => (cs.takeWhile isAsciiDigit, cs.dropWhile isAsciiDigit)
  | cs => ([], cs)

/-- The longest fraction at the start of a text, and the rest. -/
def Decimal.take? (cs : List Char) : Option (Decimal × List Char) :=
  let signed := takeSign cs
  let whole := signed.2.takeWhile isAsciiDigit
  let (fraction, rest) := takeFraction (signed.2.dropWhile isAsciiDigit)
  if whole.isEmpty && fraction.isEmpty then none
  else
    let (exponent, rest) := takeExponent rest
    some (⟨signed.1, valueOf (whole ++ fraction), exponent - fraction.length⟩, rest)

/-- The fraction that a text denotes. -/
def Decimal.read? (text : String) : Option Decimal :=
  match (bare text).bind Decimal.take? with
  | some (decimal, []) => some decimal
  | _ => none

/-- The nearest double precision number. -/
def Decimal.toBinary64 (decimal : Decimal) : Binary64 :=
  .ofDecimal decimal.negative decimal.digits decimal.power

/-! ## All numbers -/

/-- The names of infinity and of what is not a number, longer ones first. -/
def specialNames : List (List Char) :=
  ["infinity".toList, "inf".toList, "nan".toList]

/-- What follows a special name at the start of a text, with its sign. -/
def dropSpecial? (cs : List Char) : Option (List Char) :=
  let rest := (takeSign cs).2
  (specialNames.find? fun name => name.isPrefixOf (rest.map Char.toLower)).map fun name =>
    rest.drop name.length

/-- What follows the real number at the start of a text. -/
def dropReal? (cs : List Char) : Option (List Char) :=
  ((Decimal.take? cs).map (·.2)).or (dropSpecial? cs)

/-- Whether a text is the mark of an imaginary number. -/
def isImaginaryMark (cs : List Char) : Bool :=
  cs == ['j'] || cs == ['J']

/-- Whether a text is an imaginary number with a sign; a sign alone stands for one. -/
def isSignedImaginary (cs : List Char) : Bool :=
  (cs.head? == some '+' || cs.head? == some '-') &&
    isImaginaryMark ((dropReal? cs).getD (cs.drop 1))

/-- Whether a text is a number: real, imaginary, or the sum of both. -/
def isNumber (text : String) : Bool :=
  match bare text with
  | none => false
  | some cs =>
    match dropReal? cs with
    | some rest => rest.isEmpty || isImaginaryMark rest || isSignedImaginary rest
    | none => isImaginaryMark (takeSign cs).2

end SearchFilter.Number
