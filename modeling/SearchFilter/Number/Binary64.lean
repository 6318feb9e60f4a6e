/-!
# Double precision numbers

The numbers of the IEEE 754 binary64 format as exact values `± mantissa · 2 ^ exponent`, with the
infinities and one value that is not a number.  All arithmetic is on natural numbers.

* `ofRatio` rounds a quotient to the nearest number of the format, ties to the even mantissa.
* `ofDecimal` reads a decimal fraction, through `ofRatio`.
* `ceiling` and `truncate` lead back to the integers.
* `equalsInt` and `equals` compare by value.
-/

namespace SearchFilter.Number

/-- A double precision number.  Values built here have a mantissa below `2 ^ 53` and an exponent
between `-1074` and `971`. -/
inductive Binary64 where
  | finite (negative : Bool) (mantissa : Nat) (exponent : Int)
  | infinite (negative : Bool)
  | nan
deriving DecidableEq, Repr

/-- The nearest natural number to a quotient; halves go to the even neighbour. -/
def roundHalfEven (num den : Nat) : Nat :=
  let whole := num / den
  let rest := num % den
  if 2 * rest < den then whole
  else if den < 2 * rest then whole + 1
  else if whole % 2 = 0 then whole
  else whole + 1

/-- Numerator and denominator of `num / den · 2 ^ (-exponent)`. -/
def shifted (num den : Nat) (exponent : Int) : Nat × Nat :=
  if 0 ≤ exponent then (num, den * Nat.pow 2 exponent.toNat)
  else (num * Nat.pow 2 (-exponent).toNat, den)

/-- The exponent of the leading binary digit of a positive quotient. -/
def leadingExponent (num den : Nat) : Int :=
  let guess : Int := (Nat.log2 num : Int) - Nat.log2 den
  let quotient := shifted num den guess
  if quotient.1 < quotient.2 then guess - 1 else guess

namespace Binary64

/-- The least exponent of a finite number. -/
def minExponent : Int := -1074

/-- The greatest exponent of a finite number. -/
def maxExponent : Int := 971

/-- The nearest number to the quotient `± num / den`, where `den` is positive. -/
def ofRatio (negative : Bool) (num den : Nat) : Binary64 :=
  if num = 0 then finite negative 0 minExponent
  else
    let exponent := max minExponent (leadingExponent num den - 52)
    let quotient := shifted num den exponent
    let mantissa := roundHalfEven quotient.1 quotient.2
    let carried :=
      if mantissa = Nat.pow 2 53 then (Nat.pow 2 52, exponent + 1) else (mantissa, exponent)
    if maxExponent < carried.2 then infinite negative
    else finite negative carried.1 carried.2

/-- The nearest number to the quotient of two integers, the divisor being positive. -/
def ofQuotient (num : Int) (den : Nat) : Binary64 :=
  ofRatio (num < 0) num.natAbs den

/-- The nearest number to `± digits · 10 ^ power`.  Powers far outside the range of the format are
answered without computing them. -/
def ofDecimal (negative : Bool) (digits : Nat) (power : Int) : Binary64 :=
  let size : Int := (Nat.toDigits 10 digits).length + power
  if digits = 0 then finite negative 0 minExponent
  else if 310 < size then infinite negative
  else if size < -330 then finite negative 0 minExponent
  else if 0 ≤ power then ofRatio negative (digits * Nat.pow 10 power.toNat) 1
  else ofRatio negative digits (Nat.pow 10 (-power).toNat)

/-- Magnitude of a finite number as a quotient. -/
def magnitude (mantissa : Nat) (exponent : Int) : Nat × Nat :=
  shifted mantissa 1 (-exponent)

/-- The least integer that is not below a finite number. -/
def ceiling? : Binary64 → Option Int
  | finite negative mantissa exponent =>
    let quotient := magnitude mantissa exponent
    if negative then some (-((quotient.1 / quotient.2 : Nat) : Int))
    else some ((quotient.1 + (quotient.2 - 1)) / quotient.2 : Nat)
  | _ => none

/-- A finite number with its fraction cut off. -/
def truncate? : Binary64 → Option Int
  | finite negative mantissa exponent =>
    let quotient := magnitude mantissa exponent
    let whole : Int := (quotient.1 / quotient.2 : Nat)
    some (if negative then -whole else whole)
  | _ => none

/-- A finite number as a signed quotient. -/
def ratio? : Binary64 → Option (Int × Nat)
  | finite negative mantissa exponent =>
    let quotient := magnitude mantissa exponent
    some (if negative then -(quotient.1 : Int) else quotient.1, quotient.2)
  | _ => none

/-- Whether a number has the value of an integer. -/
def equalsInt (x : Binary64) (n : Int) : Bool :=
  match x.ratio? with
  | some (num, den) => num == n * den
  | none => false

/-- Whether two numbers have the same value; not a number equals nothing. -/
def equals : Binary64 → Binary64 → Bool
  | infinite a, infinite b => a == b
  | x, y =>
    match x.ratio?, y.ratio? with
    | some (a, b), some (c, d) => a * d == c * b
    | _, _ => false

/-- Whether a number differs from zero; not a number does. -/
def isNonzero : Binary64 → Bool
  | finite _ mantissa _ => mantissa != 0
  | _ => true

end Binary64

end SearchFilter.Number
