/-! # Runs of code points

A property of characters is a list of ranges or of runs, a case mapping a list of shifted runs.
-/

namespace TypedTag.Text

/-- Tells whether a code point lies in one of the ranges, whose ends belong to them. -/
def inRanges (n : Nat) (ranges : List (Nat × Nat)) : Bool :=
  ranges.any fun r => r.1 ≤ n && n ≤ r.2

/-- Every `step`-th code point from `first` to `last`. -/
structure Run where
  first : Nat
  last : Nat
  step : Nat

def Run.contains (r : Run) (n : Nat) : Bool :=
  r.first ≤ n && n ≤ r.last && (n - r.first) % r.step == 0

/-- A run moved as a whole, so that its first code point becomes `target`. -/
structure Shift where
  run : Run
  target : Nat

def Shift.image? (s : Shift) (n : Nat) : Option Nat :=
  if s.run.contains n then some (s.target + (n - s.run.first)) else none

end TypedTag.Text
