import Retirement.Instruction.Class
import Retirement.Instruction.Token

/-!
Operands of one instruction. The words after the opcode fall into groups between commas, and the
class of the opcode says what each group is: a register written, a register read, or an address
with its base register. Reading stops at the first malformation and keeps what stands before it, so
any text has operands; what went wrong is reported beside them.
-/

namespace Retirement.Instruction

inductive Problem
  | badCharacter (bad : BadCharacter)
  | missingDestination
  | missingSources
  | missingAddress
  | missingCompared
  | emptyOperand
  | emptyBase
  | missingComma (register next : String)
  | notRegister (found : Lexeme)
  | afterRegister (found : Lexeme) (register : String)
  | afterAddress (found : Lexeme)
  | insideBase (found : Lexeme)
  | noBase
  | unopenedParen
  | unclosedParen
  deriving DecidableEq, Repr

inductive ProblemKind
  | missingOperand
  | emptyOperand
  | missingComma
  | unexpectedToken
  | missingBaseRegister
  | unmatchedParen
  | badCharacter
  deriving DecidableEq, Repr

namespace Problem

def kind : Problem → ProblemKind
  | badCharacter _ => .badCharacter
  | missingDestination | missingSources | missingAddress | missingCompared => .missingOperand
  | emptyOperand | emptyBase => .emptyOperand
  | missingComma _ _ => .missingComma
  | notRegister _ | afterRegister _ _ | afterAddress _ | insideBase _ => .unexpectedToken
  | noBase => .missingBaseRegister
  | unopenedParen | unclosedParen => .unmatchedParen

def message : Problem → String
  | badCharacter bad => bad.message
  | missingDestination => "missing destination operand"
  | missingSources => "missing source operands"
  | missingAddress => "missing 'offset(reg)' address operand"
  | missingCompared => "missing compared register"
  | emptyOperand => "empty operand"
  | emptyBase => "empty base register"
  | missingComma register next => "missing ',' between '" ++ register ++ "' and '" ++ next ++ "'"
  | notRegister found => "expected a register, found '" ++ found.label ++ "'"
  | afterRegister found register =>
      "unexpected '" ++ found.label ++ "' after register '" ++ register ++ "'"
  | afterAddress found => "unexpected '" ++ found.label ++ "' after address operand"
  | insideBase found => "unexpected '" ++ found.label ++ "' in base register"
  | noBase => "address operand has no '(reg)' part"
  | unopenedParen => "')' without matching '('"
  | unclosedParen => "'(' without matching ')'"

end Problem

structure Issue where
  problem : Problem
  span : Span
  deriving DecidableEq, Repr

/-- The tokens between two commas, and the bytes between those commas. -/
structure Group where
  tokens : List Token
  span : Span
  deriving DecidableEq, Repr

def Group.push (token : Token) (group : Group) : Group :=
  { group with tokens := token :: group.tokens }

/-- The groups of a token list that fills the bytes from `start` to `stop`; there is always at
least one. -/
def groupsFrom (stop : Nat) : Nat → List Token → List Group
  | start, [] => [⟨[], ⟨start, stop⟩⟩]
  | start, token :: tokens =>
      if token.lexeme = .comma then
        ⟨[], ⟨start, token.span.start⟩⟩ :: groupsFrom stop token.span.stop tokens
      else (groupsFrom stop start tokens).modifyHead (Group.push token)

/-- An empty token list has no groups; any other has one more than it has commas. -/
def groups (start stop : Nat) (tokens : List Token) : List Group :=
  if tokens.isEmpty then [] else groupsFrom stop start tokens

/-- What one group gives: a register, a complaint, or a register followed by something that should
not be there. Reading goes on only after a register without complaint. -/
structure Reading where
  register : Option String
  issue : Option Issue
  deriving DecidableEq, Repr

def readRegister (group : Group) : Reading :=
  match group.tokens with
  | [] => ⟨none, some ⟨.emptyOperand, group.span⟩⟩
  | [⟨.word register, _⟩] => ⟨some register, none⟩
  | ⟨.word register, _⟩ :: ⟨.word next, span⟩ :: _ =>
      ⟨some register, some ⟨.missingComma register next, span⟩⟩
  | ⟨.word register, _⟩ :: ⟨found, span⟩ :: _ =>
      ⟨some register, some ⟨.afterRegister found register, span⟩⟩
  | ⟨found, span⟩ :: _ => ⟨none, some ⟨.notRegister found, span⟩⟩

/-- An address operand holds its base register between the first parenthesis and the next. -/
def readBase (group : Group) : Reading :=
  match group.tokens.dropWhile fun token => token.lexeme != .leftParen with
  | [] =>
      match group.tokens.find? fun token => token.lexeme == .rightParen with
      | some close => ⟨none, some ⟨.unopenedParen, close.span⟩⟩
      | none => ⟨none, some ⟨.noBase, group.span⟩⟩
  | opening :: inside =>
      match inside with
      | ⟨.word base, _⟩ :: ⟨.rightParen, _⟩ :: rest =>
          ⟨some base, rest.head?.map fun extra => ⟨.afterAddress extra.lexeme, extra.span⟩⟩
      | ⟨.rightParen, close⟩ :: _ => ⟨none, some ⟨.emptyBase, opening.span.join close⟩⟩
      | [] => ⟨none, some ⟨.unclosedParen, opening.span⟩⟩
      | [⟨.word _, _⟩] => ⟨none, some ⟨.unclosedParen, opening.span⟩⟩
      | _ :: ⟨found, span⟩ :: _ => ⟨none, some ⟨.insideBase found, span⟩⟩
      | [⟨found, span⟩] => ⟨none, some ⟨.insideBase found, span⟩⟩

/-- Registers up to the first group that is not a single word, whose leading word still counts. -/
def readSources : List Group → List String × Option Issue
  | [] => ([], none)
  | group :: rest =>
      match readRegister group with
      | ⟨some register, none⟩ =>
          let (registers, issue) := readSources rest
          (register :: registers, issue)
      | ⟨register, issue⟩ => (register.toList, issue)

structure Extract where
  destination : Option String
  sources : List String
  issue : Option Issue
  deriving DecidableEq, Repr

namespace Extract

def nothing : Extract := ⟨none, [], none⟩

def missing (problem : Problem) (stop : Nat) : Extract := ⟨none, [], some ⟨problem, .point stop⟩⟩

/-- The first group is written; what follows is read only after a clean destination. -/
def withDestination (stop : Nat) (readRest : List Group → List String × Option Issue) :
    List Group → Extract
  | [] => missing .missingDestination stop
  | first :: rest =>
      match readRegister first with
      | ⟨some register, none⟩ =>
          let (sources, issue) := readRest rest
          ⟨some register, sources, issue⟩
      | ⟨register, issue⟩ => ⟨register, [], issue⟩

def arithmetic (stop : Nat) : List Group → Extract :=
  withDestination stop fun
    | [] => ([], some ⟨.missingSources, .point stop⟩)
    | rest =>
        let (registers, issue) := readSources rest
        (registers.eraseDups, issue)

/-- Only the base register of the second group is read; further groups do not matter. -/
def indexedLoad (stop : Nat) : List Group → Extract :=
  withDestination stop fun
    | [] => ([], some ⟨.missingAddress, .point stop⟩)
    | address :: _ =>
        let reading := readBase address
        (reading.register.toList, reading.issue)

def conditionalBranch (stop : Nat) : List Group → Extract
  | [] => missing .missingCompared stop
  | first :: _ =>
      let reading := readRegister first
      ⟨none, reading.register.toList, reading.issue⟩

def ofClass (stop : Nat) : OpClass → List Group → Extract
  | .arithmetic, operands => arithmetic stop operands
  | .fusedMultiplyAccumulate, operands => arithmetic stop operands
  | .indexedLoad, operands => indexedLoad stop operands
  | .conditionalBranch, operands => conditionalBranch stop operands
  | .unclassified, _ => nothing

end Extract

structure Operands where
  opcode : String
  opClass : OpClass
  destination : Option String
  sources : List String
  issues : List Issue
  deriving DecidableEq, Repr

/-- The opcode is the first token if that is a word; the operands begin where it ends. -/
def splitOpcode : List Token → String × Nat × List Token
  | ⟨.word opcode, span⟩ :: rest => (opcode, span.stop, rest)
  | tokens => ("", 0, tokens)

def BadCharacter.issue (bad : BadCharacter) : Issue := ⟨.badCharacter bad, bad.span⟩

/-- Reads an instruction. Nothing is expected of a text without a known opcode, so nothing in it is
wrong. -/
def Operands.ofText (text : List Char) : Operands :=
  let scanned := scan text
  let (opcode, start, rest) := splitOpcode scanned.tokens
  let opClass := OpClass.ofOpcode opcode
  let stop := Text.byteLength text
  let extract := Extract.ofClass stop opClass (groups start stop rest)
  let bad := if opClass = .unclassified then [] else scanned.bad.map BadCharacter.issue
  { opcode, opClass
    destination := extract.destination
    sources := extract.sources
    issues := bad ++ extract.issue.toList }

end Retirement.Instruction
