import Retirement.Json.Printer
import Retirement.Trace.Field

/-!
Writing traces. Every row is an object with its fields in their order, each under its own name. An
address that is absent is left out.
-/

namespace Retirement.Trace

open Json

def Field.value (row : Row) : Field → Value
  | mnemonic => .string row.mnemonic
  | unit => .string row.unit.name
  | startCycle => .nat row.startCycle
  | endCycle => .nat row.endCycle
  | pc => .ofOption .nat row.pc

def Field.isWritten (row : Row) (field : Field) : Bool := field ≠ pc || row.pc.isSome

def rowValue (row : Row) : Value :=
  .object ((Field.all.filter (Field.isWritten row)).map fun field => (field.name, field.value row))

def rowsValue (rows : List Row) : Value := .array (rows.map rowValue)

def write (rows : List Row) : String := String.ofList (rowsValue rows).compact

/-- The rows with a line for each field. -/
def writeIndented (rows : List Row) : String := String.ofList ((rowsValue rows).pretty 0)

end Retirement.Trace
