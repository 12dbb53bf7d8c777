import Retirement.Span
import Retirement.Text.Quoted
import Retirement.Text.Utf8

/-!
The words and separators of one instruction's text. Mnemonics, registers, immediates and branch
targets are all words; only the separators that matter for operands have a lexeme of their own.
Blanks and comments are dropped. A character that belongs nowhere is set aside with its place, and
scanning goes on after it, so every text has a scan.
-/

namespace Retirement.Instruction

inductive Lexeme
  | comma
  | leftParen
  | rightParen
  | word (text : String)
  deriving DecidableEq, Repr

/-- How a lexeme is named in messages and listings; a word does not show its text. -/
def Lexeme.label : Lexeme → String
  | comma => ","
  | leftParen => "("
  | rightParen => ")"
  | word _ => "<word>"

structure Token where
  lexeme : Lexeme
  span : Span
  deriving DecidableEq, Repr

structure BadCharacter where
  char : Char
  span : Span
  deriving DecidableEq, Repr

def BadCharacter.message (bad : BadCharacter) : String :=
  "unexpected character: " ++ String.ofList (Text.quoted [bad.char])

/-- Letters and digits of ASCII, and the marks that occur inside mnemonics, numbers and labels. -/
def isWordChar (c : Char) : Bool :=
  c.isAlphanum || ['_', '.', '+', '-', '<', '>', ':', '$', '%', '@'].contains c

def isLayout (c : Char) : Bool := c = ' ' || c = '\t' || c = '\r' || c = '\n'

inductive Piece
  | token (token : Token)
  | bad (character : BadCharacter)
  deriving DecidableEq, Repr

/-- What the scanner stands inside of. The letters of a word are kept last first. -/
inductive Mode
  | between
  | comment
  | word (start : Nat) (letters : List Char)

def Mode.finish (stop : Nat) : Mode → List Piece
  | word start letters => [.token ⟨.word (String.ofList letters.reverse), ⟨start, stop⟩⟩]
  | _ => []

def Mode.extend (offset : Nat) (c : Char) : Mode → Mode
  | word start letters => word start (c :: letters)
  | _ => word offset [c]

def single (offset : Nat) (c : Char) : List Piece :=
  let span : Span := ⟨offset, offset + c.utf8Size⟩
  if c = ',' then [.token ⟨.comma, span⟩]
  else if c = '(' then [.token ⟨.leftParen, span⟩]
  else if c = ')' then [.token ⟨.rightParen, span⟩]
  else if isLayout c || c = '#' then []
  else [.bad ⟨c, span⟩]

/-- Scans from an offset. A number sign opens a comment, which the next line feed ends. -/
def scanFrom : Mode → Nat → List Char → List Piece
  | mode, offset, [] => mode.finish offset
  | .comment, offset, c :: cs =>
      scanFrom (if c = '\n' then .between else .comment) (offset + c.utf8Size) cs
  | mode, offset, c :: cs =>
      if isWordChar c then scanFrom (mode.extend offset c) (offset + c.utf8Size) cs
      else
        mode.finish offset ++ (single offset c ++
          scanFrom (if c = '#' then .comment else .between) (offset + c.utf8Size) cs)

def Piece.token? : Piece → Option Token
  | token t => some t
  | bad _ => none

def Piece.bad? : Piece → Option BadCharacter
  | token _ => none
  | bad b => some b

structure Scan where
  tokens : List Token
  bad : List BadCharacter
  deriving DecidableEq, Repr

def scan (text : List Char) : Scan :=
  let pieces := scanFrom .between 0 text
  ⟨pieces.filterMap Piece.token?, pieces.filterMap Piece.bad?⟩

end Retirement.Instruction
