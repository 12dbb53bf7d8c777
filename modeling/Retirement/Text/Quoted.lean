import Retirement.Text.CodeRanges
import Retirement.Text.Numeral

/-!
Text as it is shown inside a message: between double quotes, with every character that a reader
could not see, or that would join with its neighbour, written by its code point.
-/

namespace Retirement.Text

def codePointEscape (c : Char) : List Char :=
  '\\' :: 'u' :: '\x7b' :: hexadecimal c.toNat ++ ['\x7d']

/-- The single quote stays as it is, because the text stands between double quotes. -/
def quotedChar (c : Char) : List Char :=
  match c with
  | '\x00' => ['\\', '0']
  | '\t' => ['\\', 't']
  | '\r' => ['\\', 'r']
  | '\n' => ['\\', 'n']
  | '\\' => ['\\', '\\']
  | '"' => ['\\', '"']
  | _ => if isExtending c || isInvisible c then codePointEscape c else [c]

def quoted (cs : List Char) : List Char := '"' :: cs.flatMap quotedChar ++ ['"']

end Retirement.Text
