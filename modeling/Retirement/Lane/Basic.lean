import Retirement.Interval

/-!
First-fit packing of intervals into display lanes. Intervals are placed in the order given, each
into the lowest lane that admits it, and a new lane opens only when none does. A lane keeps its
intervals sorted, so one neighbour decides admission as long as no empty interval is involved.
-/

namespace Retirement

/-- The intervals placed in one lane, sorted, and whether one of them is empty. -/
structure Lane where
  placed : List Interval
  hasEmpty : Bool
  deriving DecidableEq, Repr

namespace Lane

def empty : Lane := ⟨[], false⟩

def lastBefore (lane : Lane) (stop : Nat) : Option Interval :=
  (lane.placed.takeWhile fun p => decide (p.start < stop)).getLast?

/-- Whether the interval overlaps nothing in the lane. Disjoint non-empty intervals that are sorted
by start are sorted by end too, so the last one that starts before the new one ends is the only
one that can be in its way. -/
def admits (lane : Lane) (interval : Interval) : Bool :=
  if interval.IsEmpty ∨ lane.hasEmpty = true then
    lane.placed.all fun p => decide (¬ p.Overlaps interval)
  else
    match lane.lastBefore interval.stop with
    | none => true
    | some last => decide (last.stop ≤ interval.start)

/-- Inserts the interval after those that are not greater. -/
def place (lane : Lane) (interval : Interval) : Lane where
  placed :=
    lane.placed.takeWhile (fun p => decide (p ≤ interval)) ++
      interval :: lane.placed.dropWhile fun p => decide (p ≤ interval)
  hasEmpty := lane.hasEmpty || decide interval.IsEmpty

end Lane

/-- Puts an interval into the first lane that admits it, and gives that lane's number. -/
def placeFirst : List Lane → Interval → Nat × List Lane
  | [], interval => (0, [Lane.empty.place interval])
  | lane :: lanes, interval =>
      if lane.admits interval then (0, lane.place interval :: lanes)
      else
        let (number, after) := placeFirst lanes interval
        (number + 1, lane :: after)

/-- Places intervals one after the other; gives the lane numbers and the final lanes. -/
def packInto : List Lane → List Interval → List Nat × List Lane
  | lanes, [] => ([], lanes)
  | lanes, interval :: rest =>
      let (number, after) := placeFirst lanes interval
      let (numbers, final) := packInto after rest
      (number :: numbers, final)

structure Packing where
  assignments : List Nat
  laneCount : Nat
  deriving DecidableEq, Repr

def pack (intervals : List Interval) : Packing :=
  let (numbers, lanes) := packInto [] intervals
  ⟨numbers, lanes.length⟩

end Retirement
