import Mathlib.Data.List.Basic
import Retirement.Instruction.Operand

/-!
The groups of an operand list, by their lexemes alone. Places matter for complaints only: which
lexemes end up in which group is decided by the commas, and a group of the expected shape is read
without a complaint wherever it stands.
-/

namespace Retirement.Instruction

def Group.lexemes (group : Group) : List Lexeme := group.tokens.map Token.lexeme

def commaSeparated (operands : List (List Lexeme)) : List Lexeme :=
  [Lexeme.comma].intercalate operands

theorem lexemes_of_push (token : Token) (groups : List Group) :
    (groups.modifyHead (Group.push token)).map Group.lexemes =
      (groups.map Group.lexemes).modifyHead (List.cons token.lexeme) := by
  cases groups <;> rfl

theorem groups_from_lexemes (stop start : Nat) (tokens : List Token) :
    (groupsFrom stop start tokens).map Group.lexemes =
      (tokens.map Token.lexeme).splitOn .comma := by
  rw [List.splitOn_eq_splitOnP]
  induction tokens generalizing start with
  | nil => rfl
  | cons token rest ih =>
      rw [groupsFrom, List.map_cons, List.splitOnP_cons_eq_if_modifyHead]
      by_cases comma : token.lexeme = .comma
      · rw [if_pos comma, if_pos (beq_iff_eq.mpr comma), List.map_cons, ih]
        rfl
      · have noComma : ¬ (token.lexeme == .comma) = true := fun same => comma (beq_iff_eq.mp same)
        rw [if_neg comma, if_neg noComma, lexemes_of_push, ih]

theorem all_of_modify_head {Item : Type*} {holds : Item → Prop} {change : Item → Item}
    (keeps : ∀ item, holds item → holds (change item)) {items : List Item}
    (all : ∀ item ∈ items, holds item) : ∀ item ∈ items.modifyHead change, holds item := by
  cases items with
  | nil => exact all
  | cons first rest =>
      obtain ⟨here, later⟩ := List.forall_mem_cons.mp all
      exact List.forall_mem_cons.mpr ⟨keeps first here, later⟩

/-- Groups hold the tokens that they were made from, without the commas. -/
theorem groups_from_tokens (stop start : Nat) (tokens : List Token) :
    ∀ group ∈ groupsFrom stop start tokens,
      ∀ t ∈ group.tokens, t ∈ tokens ∧ t.lexeme ≠ .comma := by
  induction tokens generalizing start with
  | nil =>
      intro group member
      rw [List.mem_singleton.mp member]
      simp
  | cons token rest ih =>
      have further : ∀ start, ∀ group ∈ groupsFrom stop start rest,
          ∀ t ∈ group.tokens, t ∈ token :: rest ∧ t.lexeme ≠ .comma := by
        intro start group member t inside
        obtain ⟨found, solid⟩ := ih start group member t inside
        exact ⟨List.mem_cons_of_mem token found, solid⟩
      rw [groupsFrom]
      split_ifs with comma
      · exact List.forall_mem_cons.mpr ⟨by simp, further token.span.stop⟩
      · apply all_of_modify_head _ (further start)
        intro group inside
        exact List.forall_mem_cons.mpr ⟨⟨List.mem_cons_self, comma⟩, inside⟩

theorem groups_tokens {start stop : Nat} {tokens : List Token} {group : Group}
    (member : group ∈ groups start stop tokens) :
    ∀ t ∈ group.tokens, t ∈ tokens ∧ t.lexeme ≠ .comma := by
  unfold groups at member
  split_ifs at member
  · contradiction
  · exact groups_from_tokens stop start tokens group member

/-- The operands between the commas of a list of lexemes; an empty list has none. -/
def operandLists (lexemes : List Lexeme) : List (List Lexeme) :=
  if lexemes = [] then [] else lexemes.splitOn .comma

theorem groups_lexemes (start stop : Nat) (tokens : List Token) :
    (groups start stop tokens).map Group.lexemes = operandLists (tokens.map Token.lexeme) := by
  cases tokens with
  | nil => rfl
  | cons token rest => exact groups_from_lexemes stop start (token :: rest)

/-- Operands that have lexemes, and no comma among them, are those of the list that they make with
commas between them, and of no other list. -/
theorem operand_lists_eq_iff {operands : List (List Lexeme)} (listed : operands ≠ [])
    (solid : ∀ operand ∈ operands, operand ≠ [] ∧ .comma ∉ operand) (lexemes : List Lexeme) :
    operandLists lexemes = operands ↔ lexemes = commaSeparated operands := by
  have joined : commaSeparated operands ≠ [] := by
    cases operands with
    | nil => contradiction
    | cons operand rest =>
        have filled := (solid operand List.mem_cons_self).1
        cases rest <;> simp [commaSeparated, filled]
  constructor
  · rintro rfl
    have filled : lexemes ≠ [] := by
      rintro rfl
      exact listed rfl
    rw [operandLists, if_neg filled, commaSeparated, List.intercalate_splitOn]
  · rintro rfl
    rw [operandLists, if_neg joined]
    exact List.splitOn_intercalate _ (fun operand member => (solid operand member).2) listed

theorem groups_of_comma_separated {operands : List (List Lexeme)} {tokens : List Token}
    (listed : operands ≠ []) (solid : ∀ operand ∈ operands, operand ≠ [] ∧ .comma ∉ operand)
    (list : tokens.map Token.lexeme = commaSeparated operands) (start stop : Nat) :
    (groups start stop tokens).map Group.lexemes = operands := by
  rw [groups_lexemes]
  exact (operand_lists_eq_iff listed solid _).mpr list

theorem read_register_word {group : Group} {register : String}
    (single : group.lexemes = [.word register]) :
    readRegister group = ⟨some register, none⟩ := by
  obtain ⟨token, alone, same⟩ := List.map_eq_singleton_iff.mp single
  cases token with
  | mk lexeme span =>
      cases same
      rw [readRegister, alone]

def wordOperands (words : List String) : List (List Lexeme) := words.map fun word => [.word word]

theorem word_operands_solid (words : List String) :
    ∀ operand ∈ wordOperands words, operand ≠ [] ∧ .comma ∉ operand := by
  intro operand member
  obtain ⟨word, _, rfl⟩ := List.mem_map.mp member
  simp

theorem read_sources_words {groups : List Group} {registers : List String}
    (words : groups.map Group.lexemes = wordOperands registers) :
    readSources groups = (registers, none) := by
  induction groups generalizing registers with
  | nil =>
      have none : registers = [] := List.map_eq_nil_iff.mp words.symm
      rw [none]
      rfl
  | cons group rest ih =>
      obtain ⟨register, registers, rfl, single, others⟩ := List.map_eq_cons_iff.mp words.symm
      rw [readSources, read_register_word single.symm, ih others.symm]

def address (offset : Option String) (base : String) : List Lexeme :=
  offset.toList.map .word ++ [.leftParen, .word base, .rightParen]

theorem address_solid (offset : Option String) (base : String) :
    address offset base ≠ [] ∧ .comma ∉ address offset base := by
  cases offset <;> simp [address]

theorem read_base_address {group : Group} {offset : Option String} {base : String}
    (shape : group.lexemes = address offset base) : readBase group = ⟨some base, none⟩ := by
  obtain ⟨front, back, split, offsetShape, baseShape⟩ := List.map_eq_append_iff.mp shape
  obtain ⟨⟨opening, openSpan⟩, _, rfl, rfl, inside⟩ := List.map_eq_cons_iff.mp baseShape
  obtain ⟨⟨register, baseSpan⟩, _, rfl, rfl, closes⟩ := List.map_eq_cons_iff.mp inside
  obtain ⟨⟨closing, closeSpan⟩, rfl, rfl⟩ := List.map_eq_singleton_iff.mp closes
  have passed : ∀ token ∈ front, (token.lexeme != .leftParen) = true := by
    intro token member
    have word := List.mem_map_of_mem (f := Token.lexeme) member
    rw [offsetShape] at word
    obtain ⟨text, _, same⟩ := List.mem_map.mp word
    rw [← same]
    rfl
  rw [readBase, split, List.dropWhile_append_of_pos passed]
  rfl

end Retirement.Instruction
