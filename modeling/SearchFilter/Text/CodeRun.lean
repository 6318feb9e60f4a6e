/-!
# Runs of code points

Properties of characters are tables of runs: code points at a fixed distance from each other, mostly
1, or 2 where capitals and small letters take turns.
-/

namespace SearchFilter.Text

/-- The code points from `first` to `last` at steps of `step`. -/
structure CodeRun where
  first : Nat
  last : Nat
  step : Nat

/-- Whether a code point belongs to the run. -/
def CodeRun.covers (run : CodeRun) (n : Nat) : Bool :=
  run.first ≤ n && n ≤ run.last && (n - run.first) % run.step == 0

/-- Whether a character belongs to one of the runs. -/
def inRuns (runs : List CodeRun) (c : Char) : Bool :=
  runs.any (·.covers c.toNat)

/-- Whether a character lies in one of the ranges of code points, both ends included. -/
def inRanges (ranges : List (Nat × Nat)) (c : Char) : Bool :=
  ranges.any fun range => range.1 ≤ c.toNat && c.toNat ≤ range.2

/-- Whether a character is one of the 128 of ASCII. -/
def isAscii (c : Char) : Bool :=
  c.toNat < 128

/-! ## Characters at a distance -/

/-- A run of code points and the distance from each to its image. -/
structure ShiftedRun where
  run : CodeRun
  distance : Int

/-- The image of a character, if one of the runs covers it. -/
def shifted? (runs : List ShiftedRun) (c : Char) : Option Char :=
  (runs.find? (·.run.covers c.toNat)).map fun row =>
    Char.ofNat ((c.toNat : Int) + row.distance).toNat

end SearchFilter.Text
