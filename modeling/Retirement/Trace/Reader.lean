import Retirement.Json.Skip
import Retirement.Trace.Field

/-!
Traces as JSON texts: an array of rows, each an object with named members or an array of fields in
order. A complaint about a row as a whole is placed where the row ends, as far as its end can be
found; a row is read to the end also after such a complaint.
-/

namespace Retirement.Trace

open Json

/-- Reads the members of a row. A name that is no field is passed over together with its value. -/
def readRowMembers (rounds : Nat) : Nat → Bool → Draft → Cursor → Except Refusal (Content Draft)
  | 0, _, _, cursor => .error (cursor.refuseNext .endInObject)
  | left + 1, first, draft, cursor => do
      match ← nextName first cursor with
      | .done cursor => .ok (.ok draft, cursor)
      | .item cursor =>
          let (name, cursor) ← readString cursor
          match Field.ofName? name with
          | none => do
              let cursor ← readColon cursor
              let cursor ← passValue rounds cursor
              readRowMembers rounds left false draft cursor
          | some field =>
              if draft.has field then .ok (.error (.duplicateField field.name), cursor)
              else do
                let cursor ← readColon cursor
                match ← draft.read rounds field cursor with
                | (.error fault, cursor) => .ok (.error fault, cursor)
                | (.ok draft, cursor) => readRowMembers rounds left false draft cursor

def rowShape : String := "struct TraceRecord"

/-- Reads fields by position, counting those already read. Only the address may be left out. -/
def readRowFields (rounds : Nat) :
    Nat → Draft → List Field → Cursor → Except Refusal (Content Draft)
  | _, draft, [], cursor => .ok (.ok draft, cursor)
  | count, draft, field :: fields, cursor => do
      match ← nextItem (count == 0) cursor with
      | .done cursor =>
          if field = .pc then .ok (.ok draft, cursor)
          else .ok (.error (.invalidLength count (rowShape ++ " with 5 elements")), cursor)
      | .item cursor =>
          match ← draft.read rounds field cursor with
          | (.error fault, cursor) => .ok (.error fault, cursor)
          | (.ok draft, cursor) => readRowFields rounds (count + 1) draft fields cursor

/-- Closes a row. A complaint about its content comes before a failure to close it, and is placed
where the attempt to close it ended. -/
def settle (close : Cursor → Closing) : Content Row → Except Refusal (Row × Cursor)
  | (.ok row, cursor) => do .ok (row, ← (close cursor).done)
  | (.error fault, cursor) => .error ((close cursor).cursor.refuse fault)

def finishContent (content : Content Draft) : Content Row :=
  (content.1 >>= Draft.finish, content.2)

def readRow (rounds : Nat) : Reader Row := fun cursor => do
  let cursor := cursor.skipSpace
  match cursor.rest with
  | [] => .error (cursor.refuseNext .endInValue)
  | '\x7b' :: rest => do
      let content ← readRowMembers rounds rounds true .blank ⟨cursor.offset + 1, rest⟩
      settle closeObject (finishContent content)
  | '[' :: rest => do
      let content ← readRowFields rounds 0 .blank Field.all ⟨cursor.offset + 1, rest⟩
      settle closeArray (finishContent content)
  | _ => .error (wrongKind rowShape cursor)

def readRows (text : List Char) : Except Refusal (List Row) :=
  let rounds := roundsFor text
  let cursor := (Cursor.mk 0 text).skipSpace
  match cursor.rest with
  | [] => .error (cursor.refuseNext .endInValue)
  | '[' :: rest => do
      let (rows, cursor) ← readItems (readRow rounds) rounds true [] ⟨cursor.offset + 1, rest⟩
      readEnd (← (closeArray cursor).done)
      .ok rows
  | _ => .error (wrongKind "a sequence" cursor)

end Retirement.Trace
