import SearchFilter.Text.CodeRun
import SearchFilter.Text.Mark

/-!
# The direction of labels

Letters run from left to right or from right to left.  A label that has characters of a script from
right to left must have nothing else: it starts with a letter of such a script, ends with a letter
or a digit, marks aside, and uses digits of one kind only.

The tables tell apart the characters that may stand in labels.
-/

namespace SearchFilter.Host

open SearchFilter.Text

/-- How a character takes part in the direction of a text. -/
inductive TextDirection where
  | leftToRight
  | rightToLeft
  /-- Digits of Arabic, which belong to text from right to left. -/
  | arabicDigit
  /-- Digits used in text of both directions. -/
  | digit
  /-- Marks, which go with the letter before them. -/
  | mark
  /-- Hyphens, joiners and modifiers. -/
  | neutral
deriving DecidableEq, Repr

/-- Letters of scripts from right to left. -/
def rightToLeftRanges : List (Nat × Nat) :=
  [
    (0x5D0, 0x5F4), (0x620, 0x64A), (0x66E, 0x66F), (0x671, 0x6D5), (0x6E5, 0x6E6), (0x6EE, 0x6EF),
    (0x6FA, 0x710), (0x712, 0x72F), (0x74D, 0x7A5), (0x7B1, 0x7EA), (0x7F4, 0x7F5), (0x800, 0x815),
    (0x81A, 0x81A), (0x824, 0x824), (0x828, 0x828), (0x840, 0x858), (0x860, 0x88E), (0x8A0, 0x8C9),
    (0xFE73, 0xFE73), (0x10800, 0x10A00), (0x10A10, 0x10A35), (0x10A60, 0x10AE4),
    (0x10B00, 0x10D23), (0x10E80, 0x10EA9), (0x10EB0, 0x10F45), (0x10F70, 0x10F81),
    (0x10FB0, 0x10FF6), (0x1E800, 0x1E8C4), (0x1E922, 0x1E943), (0x1E94B, 0x1E959)
  ]

/-- Characters without a direction. -/
def neutralRanges : List (Nat × Nat) :=
  [
    (0x2D, 0x2D), (0xB7, 0xB7), (0x2B9, 0x2BA), (0x2C6, 0x2CF), (0x2EC, 0x2EC), (0x375, 0x375),
    (0x200C, 0x200D), (0x2E2F, 0x2E2F), (0x30FB, 0x30FB), (0xA67F, 0xA67F), (0xA717, 0xA71F),
    (0xA788, 0xA788)
  ]

/-- The direction of a character. -/
def TextDirection.ofChar (c : Char) : TextDirection :=
  if inRanges [(0x30, 0x39), (0x6F0, 0x6F9)] c then digit
  else if inRanges [(0x660, 0x669), (0x10D30, 0x10D39)] c then arabicDigit
  else if isNonspacing c then mark
  else if inRanges rightToLeftRanges c then rightToLeft
  else if inRanges neutralRanges c then neutral
  else leftToRight

/-- Whether the last character that is not a mark is a letter or a digit. -/
def endsWell (directions : List TextDirection) : Bool :=
  match directions.reverse.dropWhile (· == .mark) with
  | .rightToLeft :: _ | .arabicDigit :: _ | .digit :: _ => true
  | _ => false

/-- Whether the directions in a label go together. -/
def directionsFit (label : List Char) : Bool :=
  let directions := label.map TextDirection.ofChar
  if directions.contains .rightToLeft || directions.contains .arabicDigit then
    directions.head? == some .rightToLeft && !directions.contains .leftToRight &&
      endsWell directions &&
      !(directions.contains .arabicDigit && directions.contains .digit)
  else true

end SearchFilter.Host
