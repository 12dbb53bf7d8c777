import Retirement.Command.Arguments
import Retirement.RenderContract
import Retirement.Report
import Retirement.Trace.File

/-!
What a command does: its exit code, its output, and its remarks on the side. A command depends on
nothing but its arguments and what reading the trace file gave. The exit code is 2 when there is no
trace to work on, 1 when the run over the trace fails, and 0 otherwise; a command that fails writes
nothing.
-/

namespace Retirement.Command

/-- A remark on the error stream. How long a pass took is filled in where time is measured. -/
inductive Remark
  | line (text : String)
  | passDone (pass : Pass)
  deriving DecidableEq, Repr

def Remark.text (elapsed : Pass → String) : Remark → String
  | line text => "ptl: " ++ text
  | passDone pass => "ptl: " ++ pass.name ++ " complete, " ++ elapsed pass

structure Outcome where
  exitCode : Nat
  output : String
  remarks : List Remark
  deriving DecidableEq, Repr

def Outcome.errorText (elapsed : Pass → String) (outcome : Outcome) : String :=
  String.join (outcome.remarks.map fun remark => remark.text elapsed ++ "\n")

def lines (items : List String) : String := String.join (items.map fun item => item ++ "\n")

def Emit.output (provenance : Provenance) (timeline : Timeline) : Emit → String
  | text => timeline.report
  | json => timeline.document provenance
  | tasks => lines (timeline.tasks.map Task.display)
  | lanes =>
      match timeline.lanes with
      | some summary => summary.display
      | none => ""
  | deps => lines ((timeline.edges.getD []).map Edge.display)
  | buildInfo => ""

namespace Invocation

def whenVerbose (invocation : Invocation) (remarks : List Remark) : List Remark :=
  if invocation.verbose then remarks else []

def opening (invocation : Invocation) : List Remark :=
  invocation.whenVerbose
    [.line ("trace   = " ++ invocation.path), .line ("emit    = " ++ invocation.emit.title),
     .line ("tracked = " ++ invocation.tracked.display)]

def rejected (invocation : Invocation) (fault : Trace.LoadFault) : Outcome :=
  ⟨2, "", invocation.opening ++ [.line ("error: " ++ fault.messageAt invocation.path)]⟩

/-- What a completed pass has to say. -/
def completionRemarks (invocation : Invocation) (completion : Completion) : List Remark :=
  completion.diagnostics.map (fun d => .line d.display) ++
    invocation.whenVerbose [.passDone completion.pass]

def options (invocation : Invocation) : Options := ⟨invocation.tracked, invocation.checkOrder⟩

def runRows (invocation : Invocation) (provenance : Provenance) (rows : List Row) : Outcome :=
  let order := if isSortable rows then "sorted by pc" else "file order"
  let loaded := invocation.whenVerbose
    [.line ("loaded " ++ toString rows.length ++ " rows (" ++ order ++ ")")]
  let (completions, result) := Timeline.run rows invocation.emit.targets invocation.options
  let said := invocation.opening ++ loaded ++ completions.flatMap invocation.completionRemarks
  match result with
  | .ok timeline => ⟨0, invocation.emit.output provenance timeline, said⟩
  | .error failure => ⟨1, "", said ++ [.line ("error: " ++ failure.message)]⟩

/-- Runs over a text. Provenance alone does not ask whether the text is a trace. -/
def runText (invocation : Invocation) (text : String) : Outcome :=
  let provenance := Provenance.ofText text
  if invocation.emit = .buildInfo then ⟨0, provenance.document, invocation.opening⟩
  else
    match Trace.load text with
    | .error fault => invocation.rejected fault
    | .ok rows => invocation.runRows provenance rows

def run (invocation : Invocation) (contents : Except Trace.ReadFault String) : Outcome :=
  match contents with
  | .error fault => invocation.rejected (.read fault)
  | .ok text => invocation.runText text

end Invocation

end Retirement.Command
