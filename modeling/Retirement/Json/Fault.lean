import Retirement.Json.Printer
import Retirement.Text.Quoted

/-!
Why a JSON text is refused: either it is not well formed, or a value in it has not the form that was
asked for. Every refusal has its place in the text, counted in bytes.
-/

namespace Retirement.Json

inductive Shape
  | null
  | bool (b : Bool)
  | number (n : Number)
  | string (s : String)
  | sequence
  | map

def Shape.describe : Shape → String
  | null => "null"
  | bool true => "boolean `true`"
  | bool false => "boolean `false`"
  | number (.float x) => "floating point `" ++ String.ofList (Number.text (.float x)) ++ "`"
  | number n => "integer `" ++ String.ofList n.text ++ "`"
  | string s => "string " ++ String.ofList (Text.quoted s.toList)
  | sequence => "sequence"
  | map => "map"

inductive Fault
  | endInValue
  | endInList
  | endInObject
  | endInString
  | expectedColon
  | expectedListEnd
  | expectedObjectEnd
  | expectedIdent
  | expectedValue
  | invalidEscape
  | invalidNumber
  | numberOutOfRange
  | loneSurrogate
  | endOfHexEscape
  | keyNotString
  | controlCharacter
  | recursionLimit
  | trailingComma
  | trailingCharacters
  | invalidType (found : Shape) (expected : String)
  | invalidValue (found : Shape) (expected : String)
  | invalidLength (count : Nat) (expected : String)
  | unknownVariant (name : String) (known : List String)
  | missingField (name : String)
  | duplicateField (name : String)
  | invalidAddress (text : String)
  | noAddressForm

namespace Fault

def inTicks (name : String) : String := "`" ++ name ++ "`"

def message : Fault → String
  | endInValue => "EOF while parsing a value"
  | endInList => "EOF while parsing a list"
  | endInObject => "EOF while parsing an object"
  | endInString => "EOF while parsing a string"
  | expectedColon => "expected `:`"
  | expectedListEnd => "expected `,` or `]`"
  | expectedObjectEnd => "expected `,` or `\x7d`"
  | expectedIdent => "expected ident"
  | expectedValue => "expected value"
  | invalidEscape => "invalid escape"
  | invalidNumber => "invalid number"
  | numberOutOfRange => "number out of range"
  | loneSurrogate => "lone leading surrogate in hex escape"
  | endOfHexEscape => "unexpected end of hex escape"
  | keyNotString => "key must be a string"
  | controlCharacter =>
      "control character (\\u0000-\\u001F) found while parsing a string"
  | recursionLimit => "recursion limit exceeded"
  | trailingComma => "trailing comma"
  | trailingCharacters => "trailing characters"
  | invalidType found expected => "invalid type: " ++ found.describe ++ ", expected " ++ expected
  | invalidValue found expected => "invalid value: " ++ found.describe ++ ", expected " ++ expected
  | invalidLength count expected =>
      "invalid length " ++ toString count ++ ", expected " ++ expected
  | unknownVariant name known =>
      "unknown variant " ++ inTicks name ++ ", expected one of " ++
        ", ".intercalate (known.map inTicks)
  | missingField name => "missing field " ++ inTicks name
  | duplicateField name => "duplicate field " ++ inTicks name
  | invalidAddress text =>
      "invalid pc value: " ++ String.ofList (Text.quoted text.toList)
  | noAddressForm => "data did not match any variant of untagged enum PcValue"

end Fault

structure Refusal where
  fault : Fault
  offset : Nat

/-- A line and a column of a text. Lines count from one; the column is the number of bytes between
the line's start and the place. -/
structure Position where
  line : Nat
  column : Nat
  deriving DecidableEq, Repr

/-- Walks the characters that start before the target offset. -/
def positionFrom (target line lineStart offset : Nat) : List Char → Position
  | [] => ⟨line, target - lineStart⟩
  | c :: cs =>
      if target ≤ offset then ⟨line, target - lineStart⟩
      else if c = '\n' then positionFrom target (line + 1) (offset + 1) (offset + 1) cs
      else positionFrom target line lineStart (offset + c.utf8Size) cs

def position (text : List Char) (offset : Nat) : Position := positionFrom offset 1 0 0 text

def Refusal.message (text : List Char) (refusal : Refusal) : String :=
  let place := position text refusal.offset
  refusal.fault.message ++ " at line " ++ toString place.line ++ " column " ++
    toString place.column

/-- A place in a text: the number of bytes before it, and the characters after it. -/
structure Cursor where
  offset : Nat
  rest : List Char

namespace Cursor

def refuse (cursor : Cursor) (fault : Fault) : Refusal := ⟨fault, cursor.offset⟩

/-- A refusal that points just past the byte that was looked at, if there is one. -/
def refuseNext (cursor : Cursor) (fault : Fault) : Refusal :=
  ⟨fault, if cursor.rest.isEmpty then cursor.offset else cursor.offset + 1⟩

end Cursor

def isSpace (c : Char) : Bool := c = ' ' || c = '\n' || c = '\t' || c = '\r'

def spacesFrom (offset : Nat) : List Char → Cursor
  | [] => ⟨offset, []⟩
  | c :: cs => if isSpace c then spacesFrom (offset + 1) cs else ⟨offset, c :: cs⟩

def Cursor.skipSpace (cursor : Cursor) : Cursor := spacesFrom cursor.offset cursor.rest

abbrev Reader (α : Type) := Cursor → Except Refusal (α × Cursor)

end Retirement.Json
