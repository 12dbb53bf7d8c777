import Retirement.Decimal.Shortest
import Retirement.Json.Value

/-!
The texts of a JSON value. The indented text has two spaces for each level, one item or member to a
line, and empty containers closed at once; the compact text has no blanks between its parts. Inside
strings only what must be escaped is escaped.
-/

namespace Retirement.Json

/-- Floating-point numbers are positional from the fifth place after the point to sixteen digits
before it. -/
def floatLayout : Decimal.Layout := ⟨-5, 15⟩

def Number.text : Number → List Char
  | natural n => Text.decimal n
  | negative n => '-' :: Text.decimal n
  | float x => floatLayout.write x

/-- Quotes, backslashes and control characters below the space are escaped, with a letter where
there is one. -/
def escapeChar (c : Char) : List Char :=
  match c with
  | '"' => ['\\', '"']
  | '\\' => ['\\', '\\']
  | '\n' => ['\\', 'n']
  | '\r' => ['\\', 'r']
  | '\t' => ['\\', 't']
  | '\x08' => ['\\', 'b']
  | '\x0c' => ['\\', 'f']
  | _ =>
      if c.toNat < 16 then ['\\', 'u', '0', '0', '0'] ++ Text.hexadecimal c.toNat
      else if c.toNat < 32 then ['\\', 'u', '0', '0'] ++ Text.hexadecimal c.toNat
      else [c]

def stringText (s : String) : List Char := '"' :: s.toList.flatMap escapeChar ++ ['"']

def newLine (depth : Nat) : List Char := '\n' :: List.replicate (2 * depth) ' '

mutual

/-- The text of a value whose first line is already at the given depth. -/
def Value.pretty (depth : Nat) : Value → List Char
  | .null => ['n', 'u', 'l', 'l']
  | .bool true => ['t', 'r', 'u', 'e']
  | .bool false => ['f', 'a', 'l', 's', 'e']
  | .number n => n.text
  | .string s => stringText s
  | .array [] => ['[', ']']
  | .array (item :: items) =>
      '[' :: (newLine (depth + 1) ++ (Value.pretty (depth + 1) item ++
        (prettyItems (depth + 1) items ++ (newLine depth ++ [']']))))
  | .object [] => ['\x7b', '\x7d']
  | .object ((name, value) :: members) =>
      '\x7b' :: (newLine (depth + 1) ++ (stringText name ++ (':' :: ' ' ::
        (Value.pretty (depth + 1) value ++
          (prettyMembers (depth + 1) members ++ (newLine depth ++ ['\x7d']))))))

def prettyItems (depth : Nat) : List Value → List Char
  | [] => []
  | item :: items => ',' :: (newLine depth ++ (Value.pretty depth item ++ prettyItems depth items))

def prettyMembers (depth : Nat) : List (String × Value) → List Char
  | [] => []
  | (name, value) :: members =>
      ',' :: (newLine depth ++ (stringText name ++ (':' :: ' ' ::
        (Value.pretty depth value ++ prettyMembers depth members))))

end

mutual

def Value.compact : Value → List Char
  | .null => ['n', 'u', 'l', 'l']
  | .bool true => ['t', 'r', 'u', 'e']
  | .bool false => ['f', 'a', 'l', 's', 'e']
  | .number n => n.text
  | .string s => stringText s
  | .array [] => ['[', ']']
  | .array (item :: items) => '[' :: (Value.compact item ++ (compactItems items ++ [']']))
  | .object [] => ['\x7b', '\x7d']
  | .object ((name, value) :: members) =>
      '\x7b' :: (stringText name ++ (':' ::
        (Value.compact value ++ (compactMembers members ++ ['\x7d']))))

def compactItems : List Value → List Char
  | [] => []
  | item :: items => ',' :: (Value.compact item ++ compactItems items)

def compactMembers : List (String × Value) → List Char
  | [] => []
  | (name, value) :: members =>
      ',' :: (stringText name ++ (':' :: (Value.compact value ++ compactMembers members)))

end

def document (value : Value) : List Char := value.pretty 0 ++ ['\n']

end Retirement.Json
