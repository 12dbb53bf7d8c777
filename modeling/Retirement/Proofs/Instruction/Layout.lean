import Retirement.Proofs.Instruction.Grouping
import Retirement.Proofs.Instruction.Issues

/-!
What the layout of an instruction can change. Reading an instruction commutes with forgetting where
its tokens stand: places are handed on into issues and are never looked at. An instruction is
therefore told by its lexemes alone, up to the places of what is wrong with it, and two texts with
the same lexemes are read alike however they are laid out.
-/

namespace Retirement.Instruction

open OpClass (ofOpcode)
open Text (byteLength)

def Token.unplaced (token : Token) : Token := { token with span := .point 0 }

def Issue.unplaced (issue : Issue) : Issue := { issue with span := .point 0 }

def Group.unplaced (group : Group) : Group := ⟨group.tokens.map Token.unplaced, .point 0⟩

def Reading.unplaced (reading : Reading) : Reading :=
  { reading with issue := reading.issue.map Issue.unplaced }

def Extract.unplaced (extract : Extract) : Extract :=
  { extract with issue := extract.issue.map Issue.unplaced }

theorem read_register_unplaced (group : Group) :
    readRegister group.unplaced = (readRegister group).unplaced := by
  obtain ⟨tokens, span⟩ := group
  cases tokens with
  | nil => rfl
  | cons first rest =>
      obtain ⟨lexeme, firstSpan⟩ := first
      cases lexeme with
      | comma | leftParen | rightParen => rfl
      | word register =>
          cases rest with
          | nil => rfl
          | cons second others =>
              obtain ⟨next, nextSpan⟩ := second
              cases next <;> rfl

theorem read_base_unplaced (group : Group) :
    readBase group.unplaced = (readBase group).unplaced := by
  have past : (group.tokens.map Token.unplaced).dropWhile (fun t => t.lexeme != .leftParen) =
      (group.tokens.dropWhile fun t => t.lexeme != .leftParen).map Token.unplaced :=
    List.dropWhile_map
  have close : (group.tokens.map Token.unplaced).find? (fun t => t.lexeme == .rightParen) =
      (group.tokens.find? fun t => t.lexeme == .rightParen).map Token.unplaced :=
    List.find?_map
  simp only [readBase, Group.unplaced]
  rw [past, close]
  cases group.tokens.dropWhile fun t => t.lexeme != .leftParen with
  | nil => cases group.tokens.find? fun t => t.lexeme == .rightParen <;> rfl
  | cons opening inside =>
      cases inside with
      | nil => rfl
      | cons first rest =>
          obtain ⟨lexeme, firstSpan⟩ := first
          cases rest with
          | nil => cases lexeme <;> rfl
          | cons second others =>
              obtain ⟨next, nextSpan⟩ := second
              -- A base is a word and a parenthesis; only there the rest of the operand is looked at.
              cases lexeme with
              | comma | leftParen | rightParen => rfl
              | word base => cases next <;> cases others <;> rfl

theorem read_sources_unplaced (groups : List Group) :
    readSources (groups.map Group.unplaced) =
      ((readSources groups).1, (readSources groups).2.map Issue.unplaced) := by
  induction groups with
  | nil => rfl
  | cons group rest ih =>
      rw [List.map_cons, readSources, readSources, ih, read_register_unplaced]
      obtain ⟨register, issue⟩ := readRegister group
      cases register <;> cases issue <;> rfl

namespace Extract

theorem with_destination_unplaced {readRest readBare : List Group → List String × Option Issue}
    (commutes : ∀ rest, readBare (rest.map Group.unplaced) =
      ((readRest rest).1, (readRest rest).2.map Issue.unplaced))
    (stop : Nat) (operands : List Group) :
    withDestination 0 readBare (operands.map Group.unplaced) =
      (withDestination stop readRest operands).unplaced := by
  cases operands with
  | nil => rfl
  | cons first rest =>
      rw [List.map_cons, withDestination, withDestination, read_register_unplaced, commutes]
      obtain ⟨register, issue⟩ := readRegister first
      cases register <;> cases issue <;> rfl

theorem arithmetic_unplaced (stop : Nat) (operands : List Group) :
    arithmetic 0 (operands.map Group.unplaced) = (arithmetic stop operands).unplaced := by
  apply with_destination_unplaced
  intro rest
  cases rest with
  | nil => rfl
  | cons group others =>
      have read := read_sources_unplaced (group :: others)
      rw [List.map_cons] at *
      simp only [read]

theorem load_unplaced (stop : Nat) (operands : List Group) :
    indexedLoad 0 (operands.map Group.unplaced) = (indexedLoad stop operands).unplaced := by
  apply with_destination_unplaced
  intro rest
  cases rest with
  | nil => rfl
  | cons address others =>
      rw [List.map_cons]
      simp only [read_base_unplaced]
      rfl

theorem branch_unplaced (stop : Nat) (operands : List Group) :
    conditionalBranch 0 (operands.map Group.unplaced) =
      (conditionalBranch stop operands).unplaced := by
  cases operands with
  | nil => rfl
  | cons first rest =>
      rw [List.map_cons, conditionalBranch, conditionalBranch, read_register_unplaced]
      rfl

/-- Whatever the class, reading operands and then forgetting places is the same as the other way
round; the end of the text is a place too. -/
theorem of_class_unplaced (stop : Nat) (opClass : OpClass) (operands : List Group) :
    ofClass 0 opClass (operands.map Group.unplaced) = (ofClass stop opClass operands).unplaced := by
  cases opClass with
  | arithmetic => exact arithmetic_unplaced stop operands
  | indexedLoad => exact load_unplaced stop operands
  | fusedMultiplyAccumulate => exact arithmetic_unplaced stop operands
  | conditionalBranch => exact branch_unplaced stop operands
  | unclassified => rfl

end Extract

def lexemesOf (text : List Char) : List Lexeme := (scan text).tokens.map Token.lexeme

def opcodeOf : List Lexeme → String
  | .word opcode :: _ => opcode
  | _ => ""

def operandsOf (text : List Char) : List (List Lexeme) := operandLists (lexemesOf text).tail

def Group.ofLexemes (lexemes : List Lexeme) : Group :=
  ⟨lexemes.map fun lexeme => ⟨lexeme, .point 0⟩, .point 0⟩

theorem lexemes_of_lexemes (operands : List (List Lexeme)) :
    (operands.map Group.ofLexemes).map Group.lexemes = operands := by
  simp [Group.ofLexemes, Group.lexemes, Function.comp_def]

theorem unplaced_of_lexemes (group : Group) :
    group.unplaced = Group.ofLexemes group.lexemes := by
  rw [Group.unplaced, Group.ofLexemes, Group.lexemes, List.map_map]
  rfl

theorem groups_unplaced (start stop : Nat) (tokens : List Token) :
    (groups start stop tokens).map Group.unplaced =
      (operandLists (tokens.map Token.lexeme)).map Group.ofLexemes := by
  rw [← groups_lexemes start stop, List.map_map]
  exact List.map_congr_left fun group _ => unplaced_of_lexemes group

theorem of_empty_opcode : ofOpcode "" = .unclassified := by decide

theorem split_opcode_lexemes (tokens : List Token) :
    (splitOpcode tokens).1 = opcodeOf (tokens.map Token.lexeme) ∧
      ((splitOpcode tokens).2.2.map Token.lexeme = (tokens.map Token.lexeme).tail ∨
        (splitOpcode tokens).1 = "") := by
  cases tokens with
  | nil => exact ⟨rfl, Or.inr rfl⟩
  | cons token rest =>
      obtain ⟨lexeme, span⟩ := token
      cases lexeme with
      | word opcode => exact ⟨rfl, Or.inl rfl⟩
      | comma | leftParen | rightParen => exact ⟨rfl, Or.inr rfl⟩

/-- What is read from a list of lexemes that stand nowhere. -/
def Extract.ofLexemes (lexemes : List Lexeme) : Extract :=
  ofClass 0 (ofOpcode (opcodeOf lexemes)) ((operandLists lexemes.tail).map Group.ofLexemes)

def Extract.ofText (text : List Char) : Extract :=
  ofClass (byteLength text) (ofOpcode (splitOpcode (scan text).tokens).1)
    (groups (splitOpcode (scan text).tokens).2.1 (byteLength text)
      (splitOpcode (scan text).tokens).2.2)

theorem Extract.unplaced_problems (extract : Extract) :
    extract.unplaced.issue.toList.map Issue.problem = extract.issue.toList.map Issue.problem := by
  cases extract with
  | mk destination sources issue => cases issue <;> rfl

theorem Extract.of_text_unplaced (text : List Char) :
    (ofText text).unplaced = ofLexemes (lexemesOf text) := by
  obtain ⟨opcode, behind⟩ := split_opcode_lexemes (scan text).tokens
  rw [ofText, ← of_class_unplaced, groups_unplaced, ofLexemes, lexemesOf, ← opcode]
  rcases behind with operands | missing
  · rw [operands]
  · -- Without an opcode nothing is read, whatever the operands are.
    rw [missing, of_empty_opcode]
    rfl

namespace Operands

/-- What is wrong with the form of the operands; bad characters are left out, and so are places. -/
def complaints (operands : Operands) : List Problem :=
  (operands.issues.map Issue.problem).filter fun problem => problem.kind ≠ .badCharacter

/-- The two differ in their bad characters and in the places of their issues at most. -/
structure Alike (one other : Operands) : Prop where
  opcode : one.opcode = other.opcode
  opClass : one.opClass = other.opClass
  destination : one.destination = other.destination
  sources : one.sources = other.sources
  complaints : one.complaints = other.complaints

structure Tells (operands : Operands) (known : String) (extract : Extract) : Prop where
  opcode : operands.opcode = known
  opClass : operands.opClass = ofOpcode known
  destination : operands.destination = extract.destination
  sources : operands.sources = extract.sources
  complaints : operands.complaints = extract.issue.toList.map Issue.problem

theorem Tells.alike {one other : Operands} {known : String} {extract : Extract}
    (first : one.Tells known extract) (second : other.Tells known extract) : one.Alike other where
  opcode := first.opcode.trans second.opcode.symm
  opClass := first.opClass.trans second.opClass.symm
  destination := first.destination.trans second.destination.symm
  sources := first.sources.trans second.sources.symm
  complaints := first.complaints.trans second.complaints.symm

theorem Reported.complaints {text : List Char} {operands : Operands} {structural : Option Issue}
    (reported : operands.Reported text structural) :
    operands.complaints = structural.toList.map Issue.problem := by
  have noBad : ∀ problem ∈ (if operands.opClass = .unclassified then []
      else (scan text).bad.map BadCharacter.issue).map Issue.problem,
      ¬ decide (problem.kind ≠ .badCharacter) = true := by
    intro problem member
    obtain ⟨issue, found, rfl⟩ := List.mem_map.mp member
    split_ifs at found
    · contradiction
    · obtain ⟨b, _, rfl⟩ := List.mem_map.mp found
      simp [BadCharacter.issue, Problem.kind]
  have kept : ∀ problem ∈ structural.toList.map Issue.problem,
      decide (problem.kind ≠ .badCharacter) = true := by
    intro problem member
    obtain ⟨issue, found, rfl⟩ := List.mem_map.mp member
    have complaint := reported.registers.issue issue (Option.mem_toList.mp found)
    exact decide_eq_true complaint.kind
  rw [Operands.complaints, reported.issues, List.map_append, List.filter_append,
    List.filter_eq_nil_iff.mpr noBad, List.filter_eq_self.mpr kept, List.nil_append]

/-- Places apart, an instruction is what its lexemes say. -/
theorem of_text_tells (text : List Char) :
    (ofText text).Tells (opcodeOf (lexemesOf text)) (Extract.ofLexemes (lexemesOf text)) := by
  have opcode : (ofText text).opcode = opcodeOf (lexemesOf text) :=
    (split_opcode_lexemes (scan text).tokens).1
  rw [← Extract.of_text_unplaced]
  apply Tells.mk
  case opcode => exact opcode
  case opClass => exact congrArg ofOpcode opcode
  case destination => rfl
  case sources => rfl
  case complaints =>
    obtain ⟨structural, reported⟩ := of_text_reported text
    have issues : (ofText text).issues = (if (ofText text).opClass = .unclassified then []
        else (scan text).bad.map BadCharacter.issue) ++ (Extract.ofText text).issue.toList := rfl
    rw [reported.issues] at issues
    rw [reported.complaints, List.append_cancel_left issues, Extract.unplaced_problems]

theorem of_text_reads (text : List Char) :
    (ofText text).Tells (ofText text).opcode
      (Extract.ofClass 0 (ofText text).opClass ((operandsOf text).map Group.ofLexemes)) := by
  have tells := of_text_tells text
  rw [Extract.ofLexemes, ← tells.opcode] at tells
  exact tells

theorem issues_nil_iff {text : List Char} (known : (ofText text).opClass ≠ .unclassified) :
    (ofText text).issues = [] ↔ (scan text).bad = [] ∧ (ofText text).complaints = [] := by
  obtain ⟨structural, reported⟩ := of_text_reported text
  rw [reported.issues, reported.complaints, if_neg known, List.append_eq_nil_iff,
    List.map_eq_nil_iff, List.map_eq_nil_iff]

/-- A text whose class is known begins with its opcode. -/
theorem lexemes_of_known {text : List Char} (known : (ofText text).opClass ≠ .unclassified) :
    lexemesOf text = .word (ofText text).opcode :: (lexemesOf text).tail := by
  have tells := of_text_tells text
  rw [tells.opClass] at known
  rw [tells.opcode]
  cases lexemes : lexemesOf text with
  | nil =>
      rw [lexemes] at known
      exact absurd of_empty_opcode known
  | cons first rest =>
      rw [lexemes] at known
      cases first with
      | word opcode => rfl
      | comma | leftParen | rightParen => exact absurd of_empty_opcode known

theorem one_complaint (text : List Char) : (ofText text).complaints.length ≤ 1 := by
  rw [(of_text_tells text).complaints, List.length_map]
  exact Option.length_toList_le

end Operands

/-- Layout never changes what an instruction means: texts with the same lexemes have the same opcode,
class and registers, and the same thing is wrong with the form of their operands, if anything is. Only
bad characters, and the places of issues, can tell them apart. -/
theorem layout_keeps_meaning (text other : List Char) (same : lexemesOf text = lexemesOf other) :
    (Operands.ofText text).Alike (Operands.ofText other) ∧
      (Operands.ofText text).complaints.length ≤ 1 := by
  have told := Operands.of_text_tells text
  rw [same] at told
  exact ⟨told.alike (Operands.of_text_tells other), Operands.one_complaint text⟩

/-- A line break, a comment and a bad character move the complaint, and add one of their own, but the
instruction and what is wrong with it stay as they were. -/
theorem relaid_instruction_is_alike :
    let text := "add a0,a1 a2".toList
    let other := "add;a0 ,# b\n a1\r\na2".toList
    lexemesOf text = lexemesOf other ∧
      (Operands.ofText text).issues = [⟨.missingComma "a1" "a2", ⟨10, 12⟩⟩] ∧
      (Operands.ofText other).issues =
        [⟨.badCharacter ⟨';', ⟨3, 4⟩⟩, ⟨3, 4⟩⟩, ⟨.missingComma "a1" "a2", ⟨17, 19⟩⟩] ∧
      (Operands.ofText other).sources = ["a1"] ∧
      (Operands.ofText other).complaints = [.missingComma "a1" "a2"] := by
  intro text other
  have same : lexemesOf text = lexemesOf other := by decide
  obtain ⟨alike, _⟩ := layout_keeps_meaning text other same
  have sources : (Operands.ofText text).sources = ["a1"] := by decide
  have complaints : (Operands.ofText text).complaints = [.missingComma "a1" "a2"] := by decide
  exact ⟨same, by decide, by decide, alike.sources.symm.trans sources,
    alike.complaints.symm.trans complaints⟩

end Retirement.Instruction
