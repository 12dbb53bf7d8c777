import Retirement.Json.Reader
import Retirement.Row

/-!
The values in a trace row: instruction text, execution unit, cycles and address. A value of another
kind is refused where it ends, with what it is and what was expected. An address may be a number or a
text; whether the value is an address at all is found out only after it has been read in full, so
that complaint has no place of its own.
-/

namespace Retirement.Trace

open Json

/-- The refusal of a value that is not of the kind asked for. Simple values are read to their end
first, because they may not even be well formed. -/
def wrongKind (expected : String) (cursor : Cursor) : Refusal :=
  let refuse (shape : Shape) (cursor : Cursor) : Refusal :=
    cursor.refuse (.invalidType shape expected)
  let simple (readSimple : Except Refusal (Shape × Cursor)) : Refusal :=
    match readSimple with
    | .ok (shape, cursor) => refuse shape cursor
    | .error refusal => refusal
  match cursor.rest with
  | [] => cursor.refuseNext .endInValue
  | c :: rest =>
      let after : Cursor := ⟨cursor.offset + 1, rest⟩
      if c = 'n' then simple ((readLetters ['u', 'l', 'l'] after).map fun k => (.null, k))
      else if c = 't' then simple ((readLetters ['r', 'u', 'e'] after).map fun k => (.bool true, k))
      else if c = 'f' then
        simple ((readLetters ['a', 'l', 's', 'e'] after).map fun k => (.bool false, k))
      else if c = '-' then
        simple ((readMagnitude true after).map fun (n, k) => (.number n, k))
      else if isDigit c then
        simple ((readMagnitude false cursor).map fun (n, k) => (.number n, k))
      else if c = '"' then simple ((readString after).map fun (s, k) => (.string s, k))
      else if c = '[' then refuse .sequence cursor
      else if c = '\x7b' then refuse .map cursor
      else cursor.refuseNext .expectedValue

def readMnemonic : Reader String := fun cursor =>
  let cursor := cursor.skipSpace
  match cursor.rest with
  | '"' :: rest => readString ⟨cursor.offset + 1, rest⟩
  | _ => .error (wrongKind "a string" cursor)

/-- A cycle is an unsigned integer of 64 bits. -/
def cycleOf (n : Number) (cursor : Cursor) : Except Refusal (Nat × Cursor) :=
  match n with
  | .natural n => .ok (n, cursor)
  | .negative n => .error (cursor.refuse (.invalidValue (.number (.negative n)) "u64"))
  | .float x => .error (cursor.refuse (.invalidType (.number (.float x)) "u64"))

def readCycle : Reader Nat := fun cursor => do
  let cursor := cursor.skipSpace
  match cursor.rest with
  | [] => .error (cursor.refuseNext .endInValue)
  | c :: rest =>
      if c = '-' then do
        let (n, cursor) ← readMagnitude true ⟨cursor.offset + 1, rest⟩
        cycleOf n cursor
      else if isDigit c then do
        let (n, cursor) ← readMagnitude false cursor
        cycleOf n cursor
      else .error (wrongKind "u64" cursor)

def readUnitName : Reader ExecUnit := fun cursor => do
  let (name, cursor) ← readString cursor
  match ExecUnit.ofName? name with
  | some u => .ok (u, cursor)
  | none => .error (cursor.refuse (.unknownVariant name (ExecUnit.all.map ExecUnit.name)))

/-- Reads the value that stands for nothing beside the name of a unit. -/
def readNothing (cursor : Cursor) : Except Refusal Cursor :=
  let cursor := cursor.skipSpace
  match cursor.rest with
  | 'n' :: rest => readLetters ['u', 'l', 'l'] ⟨cursor.offset + 1, rest⟩
  | _ => .error (wrongKind "unit" cursor)

/-- A unit is a name, or an object whose only member is that name with null. -/
def readUnit : Reader ExecUnit := fun cursor => do
  let cursor := cursor.skipSpace
  match cursor.rest with
  | [] => .error (cursor.refuseNext .endInValue)
  | '"' :: rest => readUnitName ⟨cursor.offset + 1, rest⟩
  | '\x7b' :: rest => do
      let cursor := (Cursor.mk (cursor.offset + 1) rest).skipSpace
      match cursor.rest with
      | [] => .error (cursor.refuseNext .endInObject)
      | '"' :: rest => do
          let (u, cursor) ← readUnitName ⟨cursor.offset + 1, rest⟩
          let cursor ← readColon cursor
          let cursor := (← readNothing cursor).skipSpace
          match cursor.rest with
          | [] => .error (cursor.refuse .endInObject)
          | '\x7d' :: rest => .ok (u, ⟨cursor.offset + 1, rest⟩)
          | _ => .error (cursor.refuse .expectedValue)
      | '\x7d' :: _ => .error (cursor.refuseNext .expectedValue)
      | _ => .error (cursor.refuseNext .keyNotString)
  | _ => .error (cursor.refuseNext .expectedValue)

/-- A value that has been read, or a complaint whose place is still open, and the place after what
has been read. -/
abbrev Content (α : Type) := Except Fault α × Cursor

/-- The address that a value stands for. -/
def addressOf : Value → Except Fault Nat
  | .number (.natural n) => .ok n
  | .string s =>
      match Text.readAddress s.toList with
      | some n => .ok n
      | none => .error (.invalidAddress s)
  | _ => .error .noAddressForm

/-- Reads an address; null stands for none. The row and the list around it count as brackets. -/
def readPc (rounds : Nat) (cursor : Cursor) : Except Refusal (Content (Option Nat)) :=
  let cursor := cursor.skipSpace
  match cursor.rest with
  | 'n' :: rest => do
      let cursor ← readLetters ['u', 'l', 'l'] ⟨cursor.offset + 1, rest⟩
      .ok (.ok none, cursor)
  | _ => do
      let (value, cursor) ← readValue rounds (deepest - 2) cursor
      .ok ((addressOf value).map some, cursor)

inductive Field
  | mnemonic
  | unit
  | startCycle
  | endCycle
  | pc
  deriving DecidableEq, Repr

namespace Field

def all : List Field := [mnemonic, unit, startCycle, endCycle, pc]

def name : Field → String
  | mnemonic => "mnemonic"
  | unit => "unit"
  | startCycle => "start_cycle"
  | endCycle => "end_cycle"
  | pc => "pc"

/-- The column title that traces in tabular form use. -/
def columnName : Field → String
  | mnemonic => "inst"
  | unit => "type"
  | startCycle => "start cycle"
  | endCycle => "end cycle"
  | pc => "pc"

def ofName? (name : String) : Option Field :=
  all.find? fun field => field.name == name || field.columnName == name

end Field

structure Draft where
  mnemonic : Option String
  unit : Option ExecUnit
  startCycle : Option Nat
  endCycle : Option Nat
  pc : Option (Option Nat)
  deriving DecidableEq, Repr

namespace Draft

def blank : Draft := ⟨none, none, none, none, none⟩

def has (draft : Draft) : Field → Bool
  | .mnemonic => draft.mnemonic.isSome
  | .unit => draft.unit.isSome
  | .startCycle => draft.startCycle.isSome
  | .endCycle => draft.endCycle.isSome
  | .pc => draft.pc.isSome

def read (rounds : Nat) (draft : Draft) (field : Field) (cursor : Cursor) :
    Except Refusal (Content Draft) :=
  match field with
  | .mnemonic => do
      let (mnemonic, cursor) ← readMnemonic cursor
      .ok (.ok { draft with mnemonic := some mnemonic }, cursor)
  | .unit => do
      let (u, cursor) ← readUnit cursor
      .ok (.ok { draft with unit := some u }, cursor)
  | .startCycle => do
      let (cycle, cursor) ← readCycle cursor
      .ok (.ok { draft with startCycle := some cycle }, cursor)
  | .endCycle => do
      let (cycle, cursor) ← readCycle cursor
      .ok (.ok { draft with endCycle := some cycle }, cursor)
  | .pc => do
      let (pc, cursor) ← readPc rounds cursor
      .ok (pc.map fun pc => { draft with pc := some pc }, cursor)

def require (field : Field) : Option α → Except Fault α
  | some a => .ok a
  | none => .error (.missingField field.name)

/-- The row, if no field but the address is missing; of several the first is complained about. -/
def finish (draft : Draft) : Except Fault Row := do
  let mnemonic ← require .mnemonic draft.mnemonic
  let unit ← require .unit draft.unit
  let startCycle ← require .startCycle draft.startCycle
  let endCycle ← require .endCycle draft.endCycle
  .ok ⟨mnemonic, unit, startCycle, endCycle, draft.pc.getD none⟩

end Draft

end Retirement.Trace
