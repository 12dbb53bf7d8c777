import Retirement.Interval

/-!
The busiest cycle. A sweep over the ends of all non-empty intervals counts how many are under way;
at one cycle the ends come before the starts, because an interval does not include its end.
-/

namespace Retirement

/-- A cycle at which the number of intervals under way goes up or down by one. -/
structure Boundary where
  cycle : Nat
  step : Int
  deriving DecidableEq, Repr

/-- By cycle, and at one cycle the steps down first. -/
def Boundary.le (first second : Boundary) : Bool :=
  decide (first.cycle < second.cycle ∨ first.cycle = second.cycle ∧ first.step ≤ second.step)

def boundaries (intervals : List Interval) : List Boundary :=
  (intervals.filter fun i => decide (¬ i.IsEmpty)).flatMap fun i => [⟨i.start, 1⟩, ⟨i.stop, -1⟩]

/-- The largest value of the running count from here on. -/
def sweep : Int → Int → List Boundary → Int
  | _, peak, [] => peak
  | live, peak, boundary :: rest => sweep (live + boundary.step) (max peak (live + boundary.step)) rest

/-- The largest number of intervals that are under way at one cycle. -/
def peakOverlap (intervals : List Interval) : Nat :=
  (sweep 0 0 ((boundaries intervals).mergeSort Boundary.le)).toNat

end Retirement
