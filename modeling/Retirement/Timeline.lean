import Retirement.Dependency
import Retirement.Lane.Check
import Retirement.Pass

/-!
Runs over one trace. A run takes the passes of its schedule one by one; each pass is followed by the
check of what it made, and a pass with errors ends the run. Every diagnostic is kept, in the order in
which the passes complete.
-/

namespace Retirement

open Instruction (ClassSet)

structure Options where
  /-- The classes of the consumers that get edges. -/
  tracked : ClassSet
  /-- Warn of addresses that go down. -/
  checkOrder : Bool

inductive Build
  | debug
  | release
  deriving DecidableEq, Repr

/-- Only a debug build checks the order of rows without being asked to. -/
def Options.default (build : Build) : Options := ⟨ClassSet.default, decide (build = .debug)⟩

structure Timeline where
  tasks : List Task
  /-- Present once lanes have been allocated. -/
  lanes : Option LaneSummary
  /-- Present once dependencies have been resolved. -/
  edges : Option (List Edge)
  tracked : ClassSet
  diagnostics : List Diagnostic

structure Completion where
  pass : Pass
  diagnostics : List Diagnostic
  deriving DecidableEq, Repr

/-- The pass that ended a run, with all diagnostics up to then. -/
structure Failure where
  pass : Pass
  diagnostics : List Diagnostic
  deriving DecidableEq, Repr

def Failure.message (failure : Failure) : String :=
  failure.pass.name ++ " failed with " ++
    toString (failure.diagnostics.countP fun d => decide d.IsError) ++ " error(s)"

/-- A failed check gives one error, which names the obligations that do not hold. -/
def obligationDiagnostics (code : DiagnosticCode) (subject : String)
    (obligations : List (String × Bool)) : List Diagnostic :=
  match (obligations.filter fun obligation => !obligation.2).map Prod.fst with
  | [] => []
  | failed =>
      [{ severity := .error, code := some code, row := none, span := none
         message := subject ++ " verification failed: " ++ ", ".intercalate failed
         hint := none }]

namespace Timeline

def start (tracked : ClassSet) : Timeline := ⟨[], none, none, tracked, []⟩

def step (rows : List Row) (options : Options) (timeline : Timeline) :
    Pass → Timeline × List Diagnostic
  | .buildTasks =>
      let built := buildTasks options.checkOrder rows
      ({ timeline with tasks := built.tasks }, built.diagnostics)
  | .allocateLanes =>
      let (tasks, summary) := allocateLanes timeline.tasks
      ({ timeline with tasks := tasks, lanes := some summary },
        obligationDiagnostics .brokenLanes "lane" (checkLanes tasks summary).obligations)
  | .resolveDeps =>
      let edges := resolveDependencies options.tracked timeline.tasks
      ({ timeline with edges := some edges },
        obligationDiagnostics .brokenEdges "dependency"
          (checkDependencies options.tracked timeline.tasks edges).obligations)

/-- The rows that are left for later passes. Building takes them all, so that a second building would
find none. -/
def rowsLeft (rows : List Row) : Pass → List Row
  | .buildTasks => []
  | _ => rows

/-- Takes passes until they are done or one has errors; gives also those that completed, the failing
one included. -/
def runPasses (options : Options) :
    List Row → Timeline → List Pass → List Completion × Except Failure Timeline
  | _, timeline, [] => ([], .ok timeline)
  | rows, timeline, pass :: rest =>
      let (next, found) := timeline.step rows options pass
      let diagnostics := timeline.diagnostics ++ found
      if hasErrors found then ([⟨pass, found⟩], .error ⟨pass, diagnostics⟩)
      else
        let (completions, result) :=
          runPasses options (rowsLeft rows pass) { next with diagnostics := diagnostics } rest
        (⟨pass, found⟩ :: completions, result)

def run (rows : List Row) (targets : List Pass) (options : Options) :
    List Completion × Except Failure Timeline :=
  runPasses options rows (start options.tracked) (Pass.schedule targets)

def runAll (rows : List Row) (options : Options) : Except Failure Timeline :=
  (run rows Pass.all options).2

end Timeline

end Retirement
