import Retirement.Span

/-!
Diagnostics. Each may name the row it is about, and a span inside that row's instruction text.
Errors end a run; warnings do not. The registered codes are the only ones: a diagnostic has one of
these five or none, and no text of a caller's own can stand for a code.
-/

namespace Retirement

inductive Severity
  | error
  | warning
  deriving DecidableEq, Repr

def Severity.name : Severity → String
  | error => "error"
  | warning => "warning"

/-- Stable codes. Those that begin with E are violated contracts; the others concern single rows. -/
inductive DiagnosticCode
  /-- A row ends no later than it starts. -/
  | emptyInterval
  /-- The lanes given to a trace fail their own check. -/
  | brokenLanes
  /-- The edges found in a trace fail their own check. -/
  | brokenEdges
  /-- Operand text that could be read only in part. -/
  | operands
  /-- An address lower than the one before it. -/
  | rowOrder
  deriving DecidableEq, Repr

namespace DiagnosticCode

def all : List DiagnosticCode := [emptyInterval, brokenLanes, brokenEdges, operands, rowOrder]

def name : DiagnosticCode → String
  | emptyInterval => "E0001"
  | brokenLanes => "E0100"
  | brokenEdges => "E0101"
  | operands => "W0100"
  | rowOrder => "W0101"

def ofName? (name : String) : Option DiagnosticCode := all.find? fun code => code.name == name

theorem of_name_name (code : DiagnosticCode) : ofName? code.name = some code := by
  cases code <;> decide

end DiagnosticCode

structure Diagnostic where
  severity : Severity
  code : Option DiagnosticCode
  row : Option Nat
  span : Option Span
  message : String
  hint : Option String
  deriving DecidableEq, Repr

namespace Diagnostic

def IsError (d : Diagnostic) : Prop := d.severity = .error

instance (d : Diagnostic) : Decidable d.IsError := inferInstanceAs (Decidable (_ = _))

def display (d : Diagnostic) : String :=
  let code := match d.code with
    | some code => "[" ++ code.name ++ "]"
    | none => ""
  let row := match d.row with
    | some row => "row " ++ toString row ++ ": "
    | none => ""
  let hint := match d.hint with
    | some hint => "\n  hint: " ++ hint
    | none => ""
  d.severity.name ++ code ++ ": " ++ row ++ d.message ++ hint

end Diagnostic

def hasErrors (diagnostics : List Diagnostic) : Bool := diagnostics.any fun d => decide d.IsError

end Retirement
