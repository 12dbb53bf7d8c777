import Retirement.Lane.Basic
import Retirement.Lane.Peak
import Retirement.Task

/-!
Lanes for the tasks of a trace. Each execution unit is packed by itself, in the order of the trace,
and a summary keeps for every unit how many tasks and lanes it has and how busy it gets.
-/

namespace Retirement

structure UnitStats where
  taskCount : Nat
  laneCount : Nat
  /-- The largest number of tasks under way at one cycle. -/
  peakOverlap : Nat
  deriving DecidableEq, Repr

structure LaneSummary where
  scalar : Option UnitStats
  fp : Option UnitStats
  vector : Option UnitStats
  deriving DecidableEq, Repr

namespace LaneSummary

def blank : LaneSummary := ⟨none, none, none⟩

def get (summary : LaneSummary) : ExecUnit → Option UnitStats
  | .scalar => summary.scalar
  | .fp => summary.fp
  | .vector => summary.vector

def set (summary : LaneSummary) (stats : Option UnitStats) : ExecUnit → LaneSummary
  | .scalar => { summary with scalar := stats }
  | .fp => { summary with fp := stats }
  | .vector => { summary with vector := stats }

@[simp] theorem get_set (summary : LaneSummary) (stats : Option UnitStats) (u v : ExecUnit) :
    (summary.set stats u).get v = if v = u then stats else summary.get v := by
  cases u <;> cases v <;> rfl

def entries (summary : LaneSummary) : List (ExecUnit × UnitStats) :=
  ExecUnit.all.filterMap fun u => (summary.get u).map fun stats => (u, stats)

/-- A missing unit has no lanes. -/
def laneCount (summary : LaneSummary) (u : ExecUnit) : Nat :=
  match summary.get u with
  | some stats => stats.laneCount
  | none => 0

def maxLaneCount (summary : LaneSummary) : Nat :=
  summary.entries.foldl (fun widest entry => max widest entry.2.laneCount) 0

def totalLanes (summary : LaneSummary) : Nat :=
  summary.entries.foldl (fun total entry => total + entry.2.laneCount) 0

def describe (stats : UnitStats) : String :=
  toString stats.taskCount ++ " tasks, " ++ toString stats.laneCount ++ " lanes, peak overlap " ++
    toString stats.peakOverlap

def display (summary : LaneSummary) : String :=
  String.join (summary.entries.map fun entry =>
    entry.1.name ++ ": " ++ describe entry.2 ++ "\n")

end LaneSummary

def unitIntervals (u : ExecUnit) (tasks : List Task) : List Interval :=
  (tasks.filter fun task => task.unit = u).map Task.interval

/-- Hands out lanes, one after the other, to the tasks of one unit. -/
def giveLanes (u : ExecUnit) : List Nat → List Task → List Task
  | _, [] => []
  | [], tasks => tasks
  | lane :: lanes, task :: tasks =>
      if task.unit = u then { task with lane := some lane } :: giveLanes u lanes tasks
      else task :: giveLanes u (lane :: lanes) tasks

def unitStats (u : ExecUnit) (tasks : List Task) : UnitStats :=
  let intervals := unitIntervals u tasks
  ⟨intervals.length, (pack intervals).laneCount, peakOverlap intervals⟩

/-- Packs one unit and leaves the tasks of the others as they are. -/
def laneUnit (u : ExecUnit) (tasks : List Task) : List Task :=
  giveLanes u (pack (unitIntervals u tasks)).assignments tasks

/-- Gives every task a lane. The summary has an entry for every unit, also for one without tasks. -/
def allocateLanes (tasks : List Task) : List Task × LaneSummary :=
  (ExecUnit.all.foldl (fun tasks u => laneUnit u tasks) tasks,
    ⟨some (unitStats .scalar tasks), some (unitStats .fp tasks), some (unitStats .vector tasks)⟩)

end Retirement
