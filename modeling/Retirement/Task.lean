import Retirement.Diagnostic
import Retirement.Instruction.Operand
import Retirement.Row

/-!
Tasks: rows with the registers of their instruction. A task's number is the position of its row, and
rows are never reordered here. Building always gives one task for each row; what is wrong with a row
is reported beside the tasks.
-/

namespace Retirement

structure Task where
  id : Nat
  row : Row
  opcode : String
  opClass : Instruction.OpClass
  destination : Option String
  sources : List String
  /-- The display lane, among those of the task's own execution unit. -/
  lane : Option Nat
  deriving DecidableEq, Repr

def displayId (id : Nat) : String := "#" ++ toString id

namespace Task

def unit (task : Task) : ExecUnit := task.row.unit

def interval (task : Task) : Interval := task.row.interval

def mnemonic (task : Task) : String := task.row.mnemonic

def ofRow (id : Nat) (row : Row) (operands : Instruction.Operands) : Task where
  id := id
  row := row
  opcode := operands.opcode
  opClass := operands.opClass
  destination := operands.destination
  sources := operands.sources
  lane := none

def display (task : Task) : String :=
  let written := match task.destination with
    | some register => " def=" ++ register
    | none => ""
  let read := if task.sources.isEmpty then "" else " use=" ++ ",".intercalate task.sources
  displayId task.id ++ " " ++ task.unit.name ++ " " ++ task.interval.display ++ " " ++
    task.mnemonic ++ " [" ++ task.opClass.name ++ "]" ++ written ++ read

end Task

inductive Finding
  | emptyInterval
  | outOfOrder (pc previous : Nat)
  | operand (issue : Instruction.Issue)
  deriving DecidableEq, Repr

def displayAddress (pc : Nat) : String := "0x" ++ String.ofList (Text.hexadecimal pc)

def Finding.diagnostic (index : Nat) (row : Row) : Finding → Diagnostic
  | emptyInterval =>
      { severity := .error, code := some .emptyInterval, row := some index, span := none
        message := "'" ++ row.mnemonic ++ "' has an empty cycle interval " ++ row.interval.display
        hint := some "end cycle must be greater than start cycle" }
  | outOfOrder pc previous =>
      { severity := .warning, code := some .rowOrder, row := some index, span := none
        message :=
          "pc " ++ displayAddress pc ++ " follows pc " ++ displayAddress previous ++
            "; rows are out of program order"
        hint := some "sort the trace by pc before analysis" }
  | operand issue =>
      { severity := .warning, code := some .operands, row := some index, span := some issue.span
        message := "'" ++ row.mnemonic ++ "': " ++ issue.problem.message
        hint := none }

/-- A row is out of order when its address is lower than the last address seen before it. -/
def orderFinding (lastPc pc : Option Nat) : Option Finding :=
  match lastPc, pc with
  | some previous, some pc => if pc < previous then some (.outOfOrder pc previous) else none
  | _, _ => none

/-- Findings on one row, in the order in which they are reported. -/
def rowFindings (checkOrder : Bool) (lastPc : Option Nat) (row : Row)
    (operands : Instruction.Operands) : List Finding :=
  (if row.interval.IsEmpty then [.emptyInterval] else []) ++
    (if checkOrder then (orderFinding lastPc row.pc).toList else []) ++
    operands.issues.map .operand

structure Built where
  tasks : List Task
  diagnostics : List Diagnostic
  deriving DecidableEq, Repr

/-- Builds the tasks of rows that start at position `index`, after the address `lastPc`. -/
def buildFrom (checkOrder : Bool) : Nat → Option Nat → List Row → Built
  | _, _, [] => ⟨[], []⟩
  | index, lastPc, row :: rest =>
      let operands := Instruction.Operands.ofText row.mnemonic.toList
      let later := buildFrom checkOrder (index + 1) (row.pc <|> lastPc) rest
      ⟨Task.ofRow index row operands :: later.tasks,
        (rowFindings checkOrder lastPc row operands).map (Finding.diagnostic index row) ++
          later.diagnostics⟩

def buildTasks (checkOrder : Bool) (rows : List Row) : Built := buildFrom checkOrder 0 none rows

end Retirement
