import SearchFilter.Text.Blank
import SearchFilter.Text.Digit
import SearchFilter.Text.Split

/-!
# Numeric hosts

A host can be given by its number: four decimal numbers with dots between them, or up to eight
groups of hexadecimal digits with colons between them, where `::` stands for groups of zeros.
-/

namespace SearchFilter.Host

open SearchFilter.Text

/-! ## Four numbers -/

/-- Whether a text is a number from 0 to 255 without zeros in front. -/
def isOctet (cs : List Char) : Bool :=
  !cs.isEmpty && cs.length ≤ 3 && cs.all isAsciiDigit && (cs == ['0'] || cs.head? != some '0') &&
    cs.foldl (fun value c => value * 10 + (c.toNat - 48)) 0 ≤ 255

/-- Whether a text is four numbers with dots between them. -/
def isDottedQuad (cs : List Char) : Bool :=
  let octets := pieces (· == '.') cs
  octets.length == 4 && octets.all isOctet

/-- The progress of a text towards four numbers: how many separators have been passed, and whether a
digit has been seen since the last one. -/
structure QuadState where
  separators : Nat
  digits : Bool
deriving DecidableEq, Repr

/-- What a character can mean: a further digit, or a separator after digits. -/
def QuadState.next (c : Char) (state : QuadState) : List QuadState :=
  (if isAsciiDigit c then [{ state with digits := true }] else []) ++
    (if state.digits && state.separators < 3 then [⟨state.separators + 1, false⟩] else [])

/-- What can have been read of a text. -/
def quadStates (cs : List Char) : List QuadState :=
  cs.foldl (fun states c => (states.flatMap (QuadState.next c)).eraseDups) [⟨0, false⟩]

/-- Whether a text looks like four numbers: four rows of digits with any character, even a digit,
between them.  Such a text is taken for a numeric host. -/
def looksLikeQuad (cs : List Char) : Bool :=
  (quadStates cs).contains ⟨3, true⟩

/-! ## Eight groups -/

/-- Whether a character is a hexadecimal digit. -/
def isHexDigit (c : Char) : Bool :=
  isAsciiDigit c || ('a' ≤ c && c ≤ 'f') || ('A' ≤ c && c ≤ 'F')

/-- Whether a text is a group of one to four hexadecimal digits. -/
def isGroup (cs : List Char) : Bool :=
  !cs.isEmpty && cs.length ≤ 4 && cs.all isHexDigit

/-- The number of groups in a row that is nothing but groups.  The last one may be written as four
decimal numbers and then counts as two, if `quad` allows it. -/
def groupCount? (quad : Bool) (cs : List Char) : Option Nat :=
  if cs.isEmpty then some 0
  else
    let groups := pieces (· == ':') cs
    let last := groups.getLast?.getD []
    if quad && last.contains '.' then
      if isDottedQuad last && groups.dropLast.all isGroup then some (groups.length + 1) else none
    else if groups.all isGroup then some groups.length
    else none

/-- What stands before the first double colon, and what stands after it if there is one. -/
def cutAtDoubleColon : List Char → List Char × Option (List Char)
  | ':' :: ':' :: cs => ([], some cs)
  | c :: cs =>
    let cut := cutAtDoubleColon cs
    (c :: cut.1, cut.2)
  | [] => ([], none)

/-- Whether a text is eight groups, or fewer with a double colon for the missing ones. -/
def isGroupedNumber (cs : List Char) : Bool :=
  match cutAtDoubleColon cs with
  | (row, none) => groupCount? true row == some 8
  | (row, some rest) =>
    match groupCount? false row, groupCount? true rest with
    | some before, some after => before + after ≤ 7
    | _, _ => false

/-- Whether a text is a host given by groups, possibly with a zone after a percent sign. -/
def isZonedNumber (cs : List Char) : Bool :=
  let cut := cutAt '%' cs
  isGroupedNumber cut.1 && cut.2.all fun zone => !zone.isEmpty && !zone.contains '%'

end SearchFilter.Host
