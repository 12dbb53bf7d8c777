import Retirement.Lane.Summary

/-!
A check of lanes that does not trust how they were found: every task has a lane that its unit has,
and no two tasks in one lane overlap. Sorting a lane lets neighbours stand for all pairs, unless an
empty interval is among them.
-/

namespace Retirement

structure LaneCheck where
  allLaned : Bool
  lanesDisjoint : Bool
  deriving DecidableEq, Repr

namespace LaneCheck

def obligations (check : LaneCheck) : List (String × Bool) :=
  [("L1_all_tasks_laned", check.allLaned), ("L2_lanes_disjoint", check.lanesDisjoint)]

def passes (check : LaneCheck) : Bool := check.allLaned && check.lanesDisjoint

end LaneCheck

def neighboursDisjoint : List Interval → Bool
  | first :: second :: rest =>
      decide (¬ first.Overlaps second) && neighboursDisjoint (second :: rest)
  | _ => true

def pairsDisjoint : List Interval → Bool
  | [] => true
  | first :: rest => (rest.all fun other => decide (¬ first.Overlaps other)) && pairsDisjoint rest

def laneDisjoint (intervals : List Interval) : Bool :=
  let sorted := intervals.mergeSort fun first second => decide (first ≤ second)
  neighboursDisjoint sorted &&
    (sorted.all (fun i => decide (¬ i.IsEmpty)) || pairsDisjoint sorted)

def laneIntervals (u : ExecUnit) (lane : Nat) (tasks : List Task) : List Interval :=
  (tasks.filter fun task => task.unit = u && task.lane == some lane).map Task.interval

/-- The lanes that tasks of one unit are in, each once. -/
def usedLanes (u : ExecUnit) (tasks : List Task) : List Nat :=
  ((tasks.filter fun task => task.unit = u).filterMap Task.lane).eraseDups

def hasOwnLane (summary : LaneSummary) (task : Task) : Bool :=
  match task.lane with
  | some lane => decide (lane < summary.laneCount task.unit)
  | none => false

def checkLanes (tasks : List Task) (summary : LaneSummary) : LaneCheck where
  allLaned := tasks.all (hasOwnLane summary)
  lanesDisjoint :=
    ExecUnit.all.all fun u =>
      (usedLanes u tasks).all fun lane => laneDisjoint (laneIntervals u lane tasks)

end Retirement
