import Retirement.Json.Numeral
import Retirement.Json.Word

/-!
Containers and whole values. What stands between the items of an array or the members of an object
is read here, whatever the items are. Every loop is bounded by a number of rounds that the length of
the text makes large enough, since each round reads at least one character.
-/

namespace Retirement.Json

/-- What comes next inside a container: an item, or the closing bracket, which is not read yet. -/
inductive Next
  | item (cursor : Cursor)
  | done (cursor : Cursor)

def nextItem (first : Bool) (cursor : Cursor) : Except Refusal Next :=
  let cursor := cursor.skipSpace
  match cursor.rest with
  | [] => .error (cursor.refuseNext .endInList)
  | ']' :: _ => .ok (.done cursor)
  | c :: rest =>
      if first then .ok (.item cursor)
      else if c = ',' then
        let cursor := (Cursor.mk (cursor.offset + 1) rest).skipSpace
        match cursor.rest with
        | [] => .error (cursor.refuseNext .endInValue)
        | ']' :: _ => .error (cursor.refuseNext .trailingComma)
        | _ => .ok (.item cursor)
      else .error (cursor.refuseNext .expectedListEnd)

def nextName (first : Bool) (cursor : Cursor) : Except Refusal Next :=
  let cursor := cursor.skipSpace
  match cursor.rest with
  | [] => .error (cursor.refuseNext .endInObject)
  | '\x7d' :: _ => .ok (.done cursor)
  | c :: rest =>
      if first then
        if c = '"' then .ok (.item ⟨cursor.offset + 1, rest⟩)
        else .error (cursor.refuseNext .keyNotString)
      else if c = ',' then
        let cursor := (Cursor.mk (cursor.offset + 1) rest).skipSpace
        match cursor.rest with
        | [] => .error (cursor.refuseNext .endInValue)
        | '"' :: rest => .ok (.item ⟨cursor.offset + 1, rest⟩)
        | '\x7d' :: _ => .error (cursor.refuseNext .trailingComma)
        | _ => .error (cursor.refuseNext .keyNotString)
      else .error (cursor.refuseNext .expectedObjectEnd)

def readColon (cursor : Cursor) : Except Refusal Cursor :=
  let cursor := cursor.skipSpace
  match cursor.rest with
  | [] => .error (cursor.refuseNext .endInObject)
  | ':' :: rest => .ok ⟨cursor.offset + 1, rest⟩
  | _ => .error (cursor.refuseNext .expectedColon)

structure Closing where
  cursor : Cursor
  refusal : Option Refusal

def closeArray (cursor : Cursor) : Closing :=
  let cursor := cursor.skipSpace
  match cursor.rest with
  | [] => ⟨cursor, some (cursor.refuseNext .endInList)⟩
  | ']' :: rest => ⟨⟨cursor.offset + 1, rest⟩, none⟩
  | ',' :: rest =>
      let cursor := (Cursor.mk (cursor.offset + 1) rest).skipSpace
      match cursor.rest with
      | ']' :: _ => ⟨cursor, some (cursor.refuseNext .trailingComma)⟩
      | _ => ⟨cursor, some (cursor.refuseNext .trailingCharacters)⟩
  | _ => ⟨cursor, some (cursor.refuseNext .trailingCharacters)⟩

def closeObject (cursor : Cursor) : Closing :=
  let cursor := cursor.skipSpace
  match cursor.rest with
  | [] => ⟨cursor, some (cursor.refuseNext .endInObject)⟩
  | '\x7d' :: rest => ⟨⟨cursor.offset + 1, rest⟩, none⟩
  | ',' :: _ => ⟨cursor, some (cursor.refuseNext .trailingComma)⟩
  | _ => ⟨cursor, some (cursor.refuseNext .trailingCharacters)⟩

def Closing.done (closing : Closing) : Except Refusal Cursor :=
  match closing.refusal with
  | none => .ok closing.cursor
  | some refusal => .error refusal

/-- Reads the items of an array up to its closing bracket. Those read so far are kept last first. -/
def readItems (readItem : Reader α) :
    Nat → Bool → List α → Cursor → Except Refusal (List α × Cursor)
  | 0, _, _, cursor => .error (cursor.refuseNext .endInList)
  | rounds + 1, first, found, cursor => do
      match ← nextItem first cursor with
      | .done cursor => .ok (found.reverse, cursor)
      | .item cursor =>
          let (item, cursor) ← readItem cursor
          readItems readItem rounds false (item :: found) cursor

def readMembers (readValue : Reader α) :
    Nat → Bool → List (String × α) → Cursor → Except Refusal (List (String × α) × Cursor)
  | 0, _, _, cursor => .error (cursor.refuseNext .endInObject)
  | rounds + 1, first, found, cursor => do
      match ← nextName first cursor with
      | .done cursor => .ok (found.reverse, cursor)
      | .item cursor =>
          let (name, cursor) ← readString cursor
          let cursor ← readColon cursor
          let (value, cursor) ← readValue cursor
          readMembers readValue rounds false ((name, value) :: found) cursor

/-- Reads a value; the readers of containers start after the opening bracket, and `none` stands for
brackets that are nested too deep. -/
def readValueWith (readContainer : Option (Reader Value × Reader Value)) : Reader Value :=
  fun cursor => do
    let cursor := cursor.skipSpace
    match cursor.rest with
    | [] => .error (cursor.refuseNext .endInValue)
    | c :: rest =>
        let after : Cursor := ⟨cursor.offset + 1, rest⟩
        if c = 'n' then do
          let cursor ← readLetters ['u', 'l', 'l'] after
          .ok (.null, cursor)
        else if c = 't' then do
          let cursor ← readLetters ['r', 'u', 'e'] after
          .ok (.bool true, cursor)
        else if c = 'f' then do
          let cursor ← readLetters ['a', 'l', 's', 'e'] after
          .ok (.bool false, cursor)
        else if c = '"' then do
          let (s, cursor) ← readString after
          .ok (.string s, cursor)
        else if c = '-' then do
          let (n, cursor) ← readMagnitude true after
          .ok (.number n, cursor)
        else if isDigit c then do
          let (n, cursor) ← readMagnitude false cursor
          .ok (.number n, cursor)
        else if c = '[' ∨ c = '\x7b' then
          match readContainer with
          | none => .error (cursor.refuseNext .recursionLimit)
          | some (readArray, readObject) => if c = '[' then readArray after else readObject after
        else .error (cursor.refuseNext .expectedValue)

/-- Reads any value in which brackets are nested at most `depth` deep. -/
def readValue (rounds : Nat) : Nat → Reader Value
  | 0 => readValueWith none
  | depth + 1 =>
      readValueWith <| some
        (fun cursor => do
          let (items, cursor) ← readItems (readValue rounds depth) rounds true [] cursor
          .ok (.array items, ← (closeArray cursor).done),
        fun cursor => do
          let (members, cursor) ← readMembers (readValue rounds depth) rounds true [] cursor
          .ok (.object members, ← (closeObject cursor).done))

def roundsFor (text : List Char) : Nat := 2 * text.length + 2

/-- Brackets open at the same time may be at most this many, from the outermost on. -/
def deepest : Nat := 127

def readEnd (cursor : Cursor) : Except Refusal Unit :=
  let cursor := cursor.skipSpace
  if cursor.rest.isEmpty then .ok () else .error (cursor.refuseNext .trailingCharacters)

def readDocument (text : List Char) : Except Refusal Value := do
  let (value, cursor) ← readValue (roundsFor text) deepest ⟨0, text⟩
  readEnd cursor
  .ok value

end Retirement.Json
