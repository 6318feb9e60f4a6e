import SearchFilter.Number.Binary64
import SearchFilter.Number.Numeral

/-!
# The shortest decimal text of a double

A double is written with the fewest significant digits that read back to it.  On the grid of
decimal fractions with a given number of digits only the two neighbours of the value can read
back; the first grid on which one of them does is taken, and of two hits the nearer one, on a tie
the even one.

`layout` says how the digits become text: positional from `0.0001` up to below `10 ^ 16`, always
with a decimal point, and scientific outside, with a signed exponent of at least two digits.
-/

namespace SearchFilter.Number

/-- A row of significant digits `d₁d₂…dₙ` with the place of its decimal point:
`0.d₁d₂…dₙ · 10 ^ point`. -/
structure Digits where
  digits : List Char
  point : Int
deriving DecidableEq, Repr

/-- The digits of `n · 10 ^ power`, without zeros at the end. -/
def Digits.ofScaled (n : Nat) (power : Int) : Digits :=
  let digits := Nat.toDigits 10 n
  ⟨Text.dropTrailing (· == '0') digits, digits.length + power⟩

/-- The place of the decimal point of a positive quotient that is not below `10 ^ (-400)`. -/
def decimalPoint (num den : Nat) : Int :=
  ((Nat.toDigits 10 (num * Nat.pow 10 400 / den)).length : Int) - 400

/-- Numerator and denominator of `num / den · 10 ^ (-power)`. -/
def decimalShifted (num den : Nat) (power : Int) : Nat × Nat :=
  if 0 ≤ power then (num, den * Nat.pow 10 power.toNat)
  else (num * Nat.pow 10 (-power).toNat, den)

/-- The neighbour of the value `x = num / den` on the grid of multiples of `10 ^ power` that reads
back as `x`: the nearer one if both do. -/
def neighbour? (x : Binary64) (num den : Nat) (power : Int) : Option Nat :=
  let quotient := decimalShifted num den power
  let below := quotient.1 / quotient.2
  let readsBack (n : Nat) : Bool := Binary64.ofDecimal false n power == x
  match readsBack below, readsBack (below + 1) with
  | true, true => some (roundHalfEven quotient.1 quotient.2)
  | true, false => some below
  | false, true => some (below + 1)
  | false, false => none

/-- The digits of the first grid with a neighbour that reads back, starting with `count` digits and
trying `tries` grids. -/
def firstGrid (x : Binary64) (num den : Nat) (point : Int) : Nat → Nat → Digits
  | 0, count =>
    let power := point - count
    let quotient := decimalShifted num den power
    .ofScaled (roundHalfEven quotient.1 quotient.2) power
  | tries + 1, count =>
    let power := point - count
    match neighbour? x num den power with
    | some n => .ofScaled n power
    | none => firstGrid x num den point tries (count + 1)

/-- The fewest digits that read back as the positive number `mantissa · 2 ^ exponent`.  Seventeen
always do. -/
def shortestDigits (mantissa : Nat) (exponent : Int) : Digits :=
  let quotient := Binary64.magnitude mantissa exponent
  firstGrid (.finite false mantissa exponent) quotient.1 quotient.2
    (decimalPoint quotient.1 quotient.2) 16 1

/-- Positional notation. -/
def positional (row : Digits) : List Char :=
  let count : Int := row.digits.length
  if row.point ≤ 0 then ['0', '.'] ++ List.replicate (-row.point).toNat '0' ++ row.digits
  else if count ≤ row.point then
    row.digits ++ List.replicate (row.point - count).toNat '0' ++ ['.', '0']
  else row.digits.take row.point.toNat ++ ['.'] ++ row.digits.drop row.point.toNat

/-- Scientific notation: one digit before the point, and no point after a single digit. -/
def scientific (row : Digits) : List Char :=
  let power := row.point - 1
  let mantissa := match row.digits with
    | first :: second :: rest => first :: '.' :: second :: rest
    | few => few
  mantissa ++ ['e', if power < 0 then '-' else '+'] ++ (padded 2 power.natAbs).toList

/-- Digits as text. -/
def layout (row : Digits) : List Char :=
  if -4 < row.point ∧ row.point ≤ 16 then positional row else scientific row

/-- The sign of a number, written only when negative. -/
def signText (negative : Bool) : String :=
  if negative then "-" else ""

namespace Binary64

/-- The shortest text that reads back as the number. -/
def text : Binary64 → String
  | nan => "nan"
  | infinite negative => signText negative ++ "inf"
  | finite negative mantissa exponent =>
    signText negative ++
      if mantissa = 0 then "0.0" else String.ofList (layout (shortestDigits mantissa exponent))

end Binary64

end SearchFilter.Number
