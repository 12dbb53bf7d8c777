import Retirement.Timeline

/-!
The text report of a timeline: a header, the tasks of each unit lane by lane (or a plain list while
there are no lanes), and the edges.
-/

namespace Retirement

namespace Task

/-- By lane, tasks without one first, and within a lane by number. -/
def laneLe (first second : Task) : Bool :=
  match first.lane, second.lane with
  | none, some _ => true
  | some _, none => false
  | none, none => first.id ≤ second.id
  | some a, some b => decide (a < b ∨ a = b ∧ first.id ≤ second.id)

def laneEntry (task : Task) : String :=
  let label := match task.lane with
    | some lane => task.unit.laneLabel lane
    | none => "unlaned"
  "  " ++ label ++ ": " ++ displayId task.id ++ " " ++ task.interval.display ++ " " ++ task.mnemonic

end Task

namespace Timeline

def header (timeline : Timeline) : String :=
  "timeline: " ++ toString timeline.tasks.length ++ " tasks, tracking " ++ timeline.tracked.display

def unitMembers (u : ExecUnit) (tasks : List Task) : List Task :=
  (tasks.filter fun task => task.unit = u).mergeSort Task.laneLe

def unitEntries (tasks : List Task) (entry : ExecUnit × UnitStats) : List String :=
  ("[" ++ entry.1.name ++ "] " ++ LaneSummary.describe entry.2) ::
    (unitMembers entry.1 tasks).map Task.laneEntry

def taskEntries (timeline : Timeline) : List String :=
  match timeline.lanes with
  | some summary => summary.entries.flatMap (unitEntries timeline.tasks)
  | none => "tasks:" :: timeline.tasks.map fun task => "  " ++ task.display

/-- The instruction at a position; a position outside the list shows as a question mark. -/
def mnemonicAt (tasks : List Task) (position : Nat) : String :=
  match tasks[position]? with
  | some task => task.mnemonic
  | none => "?"

def edgeEntry (tasks : List Task) (edge : Edge) : String :=
  "  " ++ edge.display ++ ": " ++ mnemonicAt tasks edge.producer ++ " -> " ++
    mnemonicAt tasks edge.consumer

def edgeEntries (timeline : Timeline) : List String :=
  match timeline.edges with
  | some edges =>
      ("edges: " ++ toString edges.length) :: edges.map (edgeEntry timeline.tasks)
  | none => []

/-- The entries of the report in order; an entry spans several lines if an instruction's text
does. -/
def reportEntries (timeline : Timeline) : List String :=
  timeline.header :: (timeline.taskEntries ++ timeline.edgeEntries)

def report (timeline : Timeline) : String :=
  String.join (timeline.reportEntries.map fun entry => entry ++ "\n")

end Timeline

end Retirement
