import Retirement.Json.Numeral
import Retirement.Json.Word

/-!
Values that nobody asked for. They have to be well formed, but nothing in them is kept, and brackets
may be nested to any depth: the open ones are a stack.
-/

namespace Retirement.Json

inductive Bracket
  | array
  | object
  deriving DecidableEq, Repr

namespace Bracket

def closing : Bracket → Char
  | array => ']'
  | object => '\x7d'

def endInside : Bracket → Fault
  | array => .endInList
  | object => .endInObject

def expectedEnd : Bracket → Fault
  | array => .expectedListEnd
  | object => .expectedObjectEnd

end Bracket

inductive Expect
  /-- A value. -/
  | value
  /-- The first item of the innermost bracket, or its end. -/
  | firstItem
  /-- What may follow a value. -/
  | next

def passName (bracket : Bracket) (cursor : Cursor) : Except Refusal Cursor :=
  match bracket with
  | .array => .ok cursor
  | .object => do
      let cursor := cursor.skipSpace
      match cursor.rest with
      | [] => .error (cursor.refuseNext .endInObject)
      | '"' :: rest => do
          let cursor ← passString (cursor.offset + 1) rest
          let cursor := cursor.skipSpace
          match cursor.rest with
          | [] => .error (cursor.refuseNext .endInObject)
          | ':' :: rest => .ok ⟨cursor.offset + 1, rest⟩
          | _ => .error (cursor.refuseNext .expectedColon)
      | _ => .error (cursor.refuseNext .keyNotString)

/-- Walks over a value that is not a container, from its first character on; gives the opened
bracket instead if it is one. -/
def passScalar (cursor : Cursor) : Except Refusal (Option Bracket × Cursor) :=
  match cursor.rest with
  | [] => .error (cursor.refuseNext .endInValue)
  | c :: rest =>
      let after : Cursor := ⟨cursor.offset + 1, rest⟩
      let closed (result : Except Refusal Cursor) : Except Refusal (Option Bracket × Cursor) := do
        .ok (none, ← result)
      if c = 'n' then closed (readLetters ['u', 'l', 'l'] after)
      else if c = 't' then closed (readLetters ['r', 'u', 'e'] after)
      else if c = 'f' then closed (readLetters ['a', 'l', 's', 'e'] after)
      else if c = '"' then closed (passString after.offset rest)
      else if c = '-' then closed (passMagnitude after)
      else if isDigit c then closed (passMagnitude cursor)
      else if c = '[' then .ok (some .array, after)
      else if c = '\x7b' then .ok (some .object, after)
      else .error (cursor.refuseNext .expectedValue)

/-- Walks over one value, given the brackets that are open, the innermost first. -/
def passFrom : Nat → List Bracket → Expect → Cursor → Except Refusal Cursor
  | 0, _, _, cursor => .error (cursor.refuseNext .endInValue)
  | rounds + 1, stack, .value, cursor => do
      let (opened, cursor) ← passScalar cursor.skipSpace
      match opened with
      | some bracket => passFrom rounds (bracket :: stack) .firstItem cursor
      | none => passFrom rounds stack .next cursor
  | _ + 1, [], _, cursor => .ok cursor
  | rounds + 1, bracket :: stack, expect, cursor => do
      let cursor := cursor.skipSpace
      match cursor.rest with
      | [] => .error (cursor.refuseNext bracket.endInside)
      | c :: rest =>
          if c = bracket.closing then passFrom rounds stack .next ⟨cursor.offset + 1, rest⟩
          else
            match expect with
            | .next =>
                if c = ',' then do
                  let cursor ← passName bracket ⟨cursor.offset + 1, rest⟩
                  passFrom rounds (bracket :: stack) .value cursor
                else .error (cursor.refuseNext bracket.expectedEnd)
            | _ => do
                let cursor ← passName bracket cursor
                passFrom rounds (bracket :: stack) .value cursor

def passValue (rounds : Nat) (cursor : Cursor) : Except Refusal Cursor :=
  passFrom rounds [] .value cursor

end Retirement.Json
