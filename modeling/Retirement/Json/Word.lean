import Retirement.Json.Fault
import Retirement.Text.Utf8

/-!
The literals and the strings of a JSON text. Strings are read with their escapes; a character beyond
the first plane may be written as a pair of surrogates, and no other use of surrogates is accepted.
A value that nobody asked for is only walked over, and then any four hexadecimal digits will do.
-/

namespace Retirement.Json

def readLetters : List Char → Cursor → Except Refusal Cursor
  | [], cursor => .ok cursor
  | letter :: letters, cursor =>
      match cursor.rest with
      | [] => .error (cursor.refuse .endInValue)
      | c :: rest =>
          if c = letter then readLetters letters ⟨cursor.offset + 1, rest⟩
          else .error ⟨.expectedIdent, cursor.offset + 1⟩

def simpleEscape? : Char → Option Char
  | '"' => some '"'
  | '\\' => some '\\'
  | '/' => some '/'
  | 'b' => some '\x08'
  | 'f' => some '\x0c'
  | 'n' => some '\n'
  | 'r' => some '\r'
  | 't' => some '\t'
  | _ => none

def hexQuad? (a b c d : Char) : Option Nat :=
  match Text.hexDigit? a, Text.hexDigit? b, Text.hexDigit? c, Text.hexDigit? d with
  | some p, some q, some r, some s => some (((p * 16 + q) * 16 + r) * 16 + s)
  | _, _, _, _ => none

def isLeading (unit : Nat) : Bool := decide (0xd800 ≤ unit ∧ unit ≤ 0xdbff)

def isTrailing (unit : Nat) : Bool := decide (0xdc00 ≤ unit ∧ unit ≤ 0xdfff)

def surrogatePair (leading trailing : Nat) : Char :=
  Char.ofNat ((leading - 0xd800) * 0x400 + (trailing - 0xdc00) + 0x10000)

/-- Why four hexadecimal digits cannot be read here: fewer than four bytes are left, or they are not
all digits. -/
def quadRefusal (offset : Nat) (rest : List Char) : Refusal :=
  if Text.byteLength rest < 4 then ⟨.endInString, offset + Text.byteLength rest⟩
  else ⟨.invalidEscape, offset + 4⟩

/-- Why no trailing surrogate can be read here: its escape does not begin, or has no digits. -/
def pairRefusal (offset : Nat) : List Char → Refusal
  | [] => ⟨.endInString, offset⟩
  | '\\' :: [] => ⟨.endInString, offset + 1⟩
  | '\\' :: 'u' :: rest => quadRefusal (offset + 2) rest
  | '\\' :: _ => ⟨.endOfHexEscape, offset + 2⟩
  | _ => ⟨.endOfHexEscape, offset + 1⟩

/-- Reads a string after its opening quote. The letters read so far are kept last first. -/
def stringFrom (letters : List Char) (offset : Nat) :
    List Char → Except Refusal (String × Cursor)
  | [] => .error ⟨.endInString, offset⟩
  | '"' :: rest => .ok (String.ofList letters.reverse, ⟨offset + 1, rest⟩)
  | '\\' :: [] => .error ⟨.endInString, offset + 1⟩
  | '\\' :: 'u' :: a :: b :: c :: d :: rest =>
      match hexQuad? a b c d with
      | none => .error ⟨.invalidEscape, offset + 6⟩
      | some unit =>
          if isTrailing unit then .error ⟨.loneSurrogate, offset + 6⟩
          else if isLeading unit then
            match rest with
            | '\\' :: 'u' :: e :: f :: g :: h :: rest =>
                match hexQuad? e f g h with
                | none => .error ⟨.invalidEscape, offset + 12⟩
                | some trailing =>
                    if isTrailing trailing then
                      stringFrom (surrogatePair unit trailing :: letters) (offset + 12) rest
                    else .error ⟨.loneSurrogate, offset + 12⟩
            | rest => .error (pairRefusal (offset + 6) rest)
          else stringFrom (Char.ofNat unit :: letters) (offset + 6) rest
  | '\\' :: c :: rest =>
      match simpleEscape? c with
      | some letter => stringFrom (letter :: letters) (offset + 2) rest
      | none =>
          if c = 'u' then .error (quadRefusal (offset + 2) rest)
          else .error ⟨.invalidEscape, offset + 2⟩
  | c :: rest =>
      if c.toNat < 32 then .error ⟨.controlCharacter, offset + 1⟩
      else stringFrom (c :: letters) (offset + c.utf8Size) rest

def readString : Reader String := fun cursor => stringFrom [] cursor.offset cursor.rest

def passString (offset : Nat) : List Char → Except Refusal Cursor
  | [] => .error ⟨.endInString, offset⟩
  | '"' :: rest => .ok ⟨offset + 1, rest⟩
  | '\\' :: [] => .error ⟨.endInString, offset + 1⟩
  | '\\' :: 'u' :: a :: b :: c :: d :: rest =>
      match hexQuad? a b c d with
      | none => .error ⟨.invalidEscape, offset + 6⟩
      | some _ => passString (offset + 6) rest
  | '\\' :: c :: rest =>
      match simpleEscape? c with
      | some _ => passString (offset + 2) rest
      | none =>
          if c = 'u' then .error (quadRefusal (offset + 2) rest)
          else .error ⟨.invalidEscape, offset + 2⟩
  | c :: rest =>
      if c.toNat < 32 then .error ⟨.controlCharacter, offset⟩
      else passString (offset + c.utf8Size) rest

end Retirement.Json
