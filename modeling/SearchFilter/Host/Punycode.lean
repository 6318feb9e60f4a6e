import SearchFilter.Text.CodeRun

/-!
# Labels in ASCII letters

A label with characters outside ASCII is written as its ASCII characters, a hyphen, and a row of
numbers that say where the other characters are to be inserted.

The insertions go through the characters by code point and through the places by position, and each
number counts the possibilities passed over since the last insertion.  Numbers are written with the
digits `a` to `z` and `0` to `9`, the lowest first; a digit below the threshold of its place is the
last one.  The thresholds depend on a bias, which follows the size of the numbers so far.

* `encode` writes a label in this form, `decode` reads it.
-/

namespace SearchFilter.Host.Punycode

open SearchFilter.Text

/-! ## Numbers -/

/-- The digit of a number below 36. -/
def digit (n : Nat) : Char :=
  if n < 26 then Char.ofNat (97 + n) else Char.ofNat (22 + n)

/-- The value of a digit. -/
def digitValue? (c : Char) : Option Nat :=
  if 'a' ≤ c && c ≤ 'z' then some (c.toNat - 97)
  else if '0' ≤ c && c ≤ '9' then some (c.toNat - 22)
  else none

/-- The threshold of a place; places count in steps of 36, from 36 on. -/
def threshold (bias place : Nat) : Nat :=
  if place ≤ bias then 1 else min (place - bias) 26

theorem threshold_pos (bias place : Nat) : 0 < threshold bias place := by
  unfold threshold
  split <;> omega

/-- The bias after a number has been scaled down, `places` further on. -/
def settle (number places : Nat) : Nat :=
  if 455 < number then settle (number / 35) (places + 36)
  else places + 36 * number / (number + 38)
termination_by number
decreasing_by omega

/-- The bias after a number, with `count` characters in place.  The first number of a label is
larger than the others and is damped more. -/
def adapted (number count : Nat) (first : Bool) : Nat :=
  let damped := if first then number / 700 else number / 2
  settle (damped + damped / count) 0

/-- The digits of a number from a place on. -/
def digits (bias place number : Nat) : List Char :=
  let bound := threshold bias place
  if number < bound then [digit number]
  else
    digit (bound + (number - bound) % (36 - bound)) ::
      digits bias (place + 36) ((number - bound) / (36 - bound))
termination_by number
decreasing_by
  have := threshold_pos bias place
  have := Nat.div_le_self (number - threshold bias place) (36 - threshold bias place)
  omega

/-! ## Writing -/

/-- The numbers for the insertions of one character, given by its code point, and what has been
passed over after the last of them.  `passed` counts what was passed over before. -/
def insertionsOf (code passed : Nat) : List Char → List Nat × Nat
  | [] => ([], passed)
  | c :: cs =>
    if c.toNat < code then insertionsOf code (passed + 1) cs
    else if c.toNat = code then
      let rest := insertionsOf code 0 cs
      (passed :: rest.1, rest.2)
    else insertionsOf code passed cs

/-- The numbers for the insertions of characters, given by their code points in ascending order.
All code points below `reached` are done. -/
def insertions (label : List Char) (reached passed : Nat) : List Nat → List Nat
  | [] => []
  | code :: codes =>
    let places := label.countP (fun c => c.toNat < code) + 1
    let own := insertionsOf code (passed + (code - reached) * places) label
    own.1 ++ insertions label (code + 1) (own.2 + 1) codes

/-- Adds a number to an ascending list without repetitions. -/
def insertCode (code : Nat) : List Nat → List Nat
  | [] => [code]
  | c :: cs =>
    if code < c then code :: c :: cs
    else if code = c then c :: cs
    else c :: insertCode code cs

/-- The code points outside ASCII, in ascending order and without repetitions. -/
def foreignCodes (label : List Char) : List Nat :=
  (label.filter (!isAscii ·)).foldr (fun c codes => insertCode c.toNat codes) []

/-- The digits of numbers in a row, with `count` characters in place. -/
def numbers (bias count : Nat) (first : Bool) : List Nat → List Char
  | [] => []
  | number :: rest =>
    digits bias 36 number ++
      numbers (adapted number (count + 1) first) (count + 1) false rest

/-- The bias before the first number. -/
def initialBias : Nat := 72

/-- A label in ASCII letters. -/
def encode (label : List Char) : List Char :=
  let basic := label.filter isAscii
  (if basic.isEmpty then [] else basic ++ ['-']) ++
    numbers initialBias basic.length true (insertions label 128 0 (foreignCodes label))

/-! ## Reading -/

/-- A label that is being read. -/
structure Reading where
  /-- The characters in place. -/
  label : List Char
  /-- The code point of the last insertion. -/
  code : Nat
  /-- The position after the last insertion. -/
  position : Nat
  bias : Nat
  /-- Whether no number has been read yet. -/
  first : Bool
  /-- The digits of the next number so far. -/
  number : Nat
  /-- What the next digit counts. -/
  weight : Nat
  /-- The place of the next digit. -/
  place : Nat

/-- Whether a number is the code point of a character. -/
def isCharacter (n : Nat) : Bool :=
  n < 0xD800 || (0xDFFF < n && n < 0x110000)

/-- Makes the insertion that a complete number stands for. -/
def Reading.insertNumber (reading : Reading) (number : Nat) : Option Reading :=
  let count := reading.label.length + 1
  let code := reading.code + (reading.position + number) / count
  let position := (reading.position + number) % count
  if isCharacter code then
    some ⟨reading.label.take position ++ Char.ofNat code :: reading.label.drop position, code,
      position + 1, adapted number count reading.first, false, 0, 1, 36⟩
  else none

/-- Reads one digit. -/
def Reading.step (reading : Reading) (value : Nat) : Option Reading :=
  let number := reading.number + value * reading.weight
  let bound := threshold reading.bias reading.place
  if value < bound then reading.insertNumber number
  else some { reading with
    number := number, weight := reading.weight * (36 - bound), place := reading.place + 36 }

/-- Reads the digits of all numbers; the last number must be complete. -/
def Reading.finish (reading : Reading) : List Char → Option (List Char)
  | [] => if reading.place = 36 then some reading.label else none
  | c :: cs => (digitValue? c).bind fun value => (reading.step value).bind (·.finish cs)

/-- The label written by ASCII letters, if they have the right form. -/
def decode (cs : List Char) : Option (List Char) :=
  let last := cs.reverse.takeWhile (· != '-')
  let basic := (cs.take (cs.length - last.length)).dropLast
  (Reading.mk basic 128 0 initialBias true 0 1 36).finish last.reverse

end SearchFilter.Host.Punycode
