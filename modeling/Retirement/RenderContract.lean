import Retirement.Provenance
import Retirement.Timeline

/-!
The document that a renderer of timelines reads: one row for each task in trace order, the edges by
task number, the lane statistics, the tracked classes, the diagnostics, and the provenance. Members
of every object stand in alphabetical order, and an artifact that was not asked for is null.
-/

namespace Retirement

open Json (Value)

/-- A task as a renderer sees it. The lane is absent while lanes have not been allocated. -/
structure RenderRow where
  programOrder : Nat
  unit : ExecUnit
  lane : Option Nat
  startCycle : Nat
  endCycle : Nat
  mnemonic : String
  opClass : Instruction.OpClass
  deriving DecidableEq, Repr

namespace RenderRow

def ofTask (task : Task) : RenderRow where
  programOrder := task.id
  unit := task.unit
  lane := task.lane
  startCycle := task.row.startCycle
  endCycle := task.row.endCycle
  mnemonic := task.mnemonic
  opClass := task.opClass

def value (row : RenderRow) : Value :=
  let lane := match row.lane with
    | some lane => [("lane", Value.nat lane)]
    | none => []
  .object
    ([("class", .string row.opClass.name), ("end_cycle", .nat row.endCycle)] ++ lane ++
      [("mnemonic", .string row.mnemonic), ("program_order", .nat row.programOrder),
       ("start_cycle", .nat row.startCycle), ("unit", .string row.unit.name)])

end RenderRow

def Span.value (span : Span) : Value :=
  .object [("end", .nat span.stop), ("start", .nat span.start)]

def Diagnostic.value (d : Diagnostic) : Value :=
  .object
    [("code", .ofOption (fun code => .string code.name) d.code),
     ("hint", .ofOption .string d.hint),
     ("level", .string d.severity.name),
     ("message", .string d.message),
     ("row", .ofOption .nat d.row),
     ("span", .ofOption Span.value d.span)]

def Edge.value (edge : Edge) : Value :=
  .object
    [("consumer", .nat edge.consumer), ("producer", .nat edge.producer),
     ("register", .string edge.register)]

def UnitStats.value (stats : UnitStats) : Value :=
  .object
    [("lanes", .nat stats.laneCount), ("peak_overlap", .nat stats.peakOverlap),
     ("tasks", .nat stats.taskCount)]

def LaneSummary.value (summary : LaneSummary) : Value :=
  .object ([ExecUnit.fp, .scalar, .vector].filterMap fun u =>
    (summary.get u).map fun stats => (u.name, stats.value))

namespace Timeline

def renderRows (timeline : Timeline) : List RenderRow := timeline.tasks.map RenderRow.ofTask

def value (timeline : Timeline) (provenance : Provenance) : Value :=
  .object
    [("diagnostics", .array (timeline.diagnostics.map Diagnostic.value)),
     ("edges", .ofOption (fun edges => .array (edges.map Edge.value)) timeline.edges),
     ("lanes", .ofOption LaneSummary.value timeline.lanes),
     ("provenance", provenance.value),
     ("tasks", .array (timeline.renderRows.map RenderRow.value)),
     ("tracked", .array (timeline.tracked.toList.map fun c => .string c.name))]

def document (timeline : Timeline) (provenance : Provenance) : String :=
  String.ofList (Json.document (timeline.value provenance))

end Timeline

end Retirement
