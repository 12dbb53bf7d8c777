import Retirement.Interval
import Retirement.Text.Numeral

/-!
Rows of a retirement trace, one for each retired instruction, and their program order. A row may
carry the address of its instruction; only a trace in which every row has one can be sorted, and
any other keeps the order in which it was recorded.
-/

namespace Retirement

inductive ExecUnit
  | scalar
  | fp
  | vector
  deriving DecidableEq, Repr

namespace ExecUnit

def all : List ExecUnit := [scalar, fp, vector]

theorem mem_all (u : ExecUnit) : u ∈ all := by cases u <;> decide

def name : ExecUnit → String
  | scalar => "scalar"
  | fp => "fp"
  | vector => "vector"

def title : ExecUnit → String
  | scalar => "Scalar"
  | fp => "Fp"
  | vector => "Vector"

def ofName? (name : String) : Option ExecUnit := all.find? fun u => u.name == name

theorem of_name_name (u : ExecUnit) : ofName? u.name = some u := by cases u <;> decide

def laneLabel (u : ExecUnit) (lane : Nat) : String := u.title ++ " Row " ++ toString lane

end ExecUnit

structure Row where
  mnemonic : String
  unit : ExecUnit
  startCycle : Nat
  endCycle : Nat
  pc : Option Nat
  deriving DecidableEq, Repr

namespace Row

def interval (row : Row) : Interval := ⟨row.startCycle, row.endCycle⟩

/-- By address; a row without one counts as lowest. -/
def pcLe (first second : Row) : Bool :=
  match first.pc, second.pc with
  | none, _ => true
  | some _, none => false
  | some a, some b => a ≤ b

end Row

/-- Whether a trace can be sorted: it has rows, and every row has an address. -/
def isSortable (rows : List Row) : Bool := !rows.isEmpty && rows.all fun row => row.pc.isSome

/-- Program order: by address, rows of one address in recorded order, if the trace can be sorted. -/
def programOrder (rows : List Row) : List Row :=
  if isSortable rows then rows.mergeSort Row.pcLe else rows

end Retirement
