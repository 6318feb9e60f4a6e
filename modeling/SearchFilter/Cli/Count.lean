import SearchFilter.Number.Decimal
import SearchFilter.Text.Letter
import SearchFilter.Text.Split

/-!
# Counts

Page numbers and numbers of records are integers.  Besides decimal numerals the command line takes
numerals to base 16, 8 and 2, marked by `0x`, `0o` and `0b`, and decimal fractions, which are
rounded to the nearest integer, halves to the even one.
-/

namespace SearchFilter.Cli

open SearchFilter.Number SearchFilter.Text

/-! ## Numerals to other bases -/

/-- The value of a digit of any base up to 16. -/
def baseDigit? (c : Char) : Option Nat :=
  if isAsciiDigit c then some (c.toNat - 48)
  else if 'a' ≤ c && c ≤ 'f' then some (c.toNat - 87)
  else none

/-- The number written by digits of a base. -/
def readDigits (base : Nat) : Nat → List Char → Option Nat
  | value, [] => some value
  | value, c :: cs =>
    match baseDigit? c with
    | some digit => if digit < base then readDigits base (value * base + digit) cs else none
    | none => none

/-- The number written by digits of a base; single underscores may stand in front of digits. -/
def readGrouped (base : Nat) (cs : List Char) : Option Nat :=
  let groups := match pieces (· == '_') cs with
    | [] :: rest => rest
    | groups => groups
  if groups.isEmpty || groups.any List.isEmpty then none
  else readDigits base 0 groups.flatten

/-- The base that the mark at the start of a numeral stands for. -/
def markedBase? : List Char → Option Nat
  | '0' :: 'x' :: _ => some 16
  | '0' :: 'o' :: _ => some 8
  | '0' :: 'b' :: _ => some 2
  | _ => none

/-- The integer written to a base, after sign and mark. -/
def readMarked (base : Nat) (cs : List Char) : Option Int :=
  let signed := takeSign cs
  let digits := dropTrailing isMargin ((signed.2.drop 2).map plain)
  (readGrouped base digits).map fun value => if signed.1 then -(value : Int) else value

/-! ## Counts -/

/-- The integer nearest to a double precision number. -/
def nearestInteger : Binary64 → Except Failure Int
  | .finite negative mantissa exponent =>
    let quotient := Binary64.magnitude mantissa exponent
    let whole : Int := roundHalfEven quotient.1 quotient.2
    .ok (if negative then -whole else whole)
  | .infinite _ => .error .infiniteNumber
  | .nan => .error .notANumber

/-- The integer that a text denotes, if it is the text of a count.  A count can be too large. -/
def readCount (text : String) : Option (Except Failure Int) :=
  let cs := (lower text).toList
  match markedBase? (takeSign cs).2 with
  | some base => (readMarked base cs).map .ok
  | none =>
    if cs.contains '.' then
      (Decimal.read? text).map fun decimal => nearestInteger decimal.toBinary64
    else (readInteger text).toOption.map .ok

/-- The words for no count. -/
def noCount : List String := ["none", "null"]

/-- The integer that a text denotes, or nothing if it says so. -/
def readOptionalCount (text : String) : Option (Except Failure (Option Int)) :=
  match readCount text with
  | some count => some (count.map some)
  | none => if noCount.contains (lower text) then some (.ok none) else none

/-! ## Truth values -/

/-- The words for true. -/
def yesWords : List String := ["yes", "y", "1", "true", "t"]

/-- The words for false. -/
def noWords : List String := ["no", "n", "0", "false", "f"]

/-- The truth value that a text denotes. -/
def readTruth (text : String) : Option Bool :=
  if yesWords.contains (lower text) then some true
  else if noWords.contains (lower text) then some false
  else none

end SearchFilter.Cli
