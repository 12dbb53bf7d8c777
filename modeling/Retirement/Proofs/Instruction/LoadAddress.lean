import Retirement.Proofs.Instruction.FirstFault

/-!
What is read from the operands of a load. The base register stands behind the first parenthesis that
is opened in the second operand, as a word which is closed at once; in any other shape no register is
read. What comes behind the address does not matter: neither the tokens that follow the closing
parenthesis for the register, nor any further operand for anything.
-/

namespace Retirement.Instruction

open OpClass (ofOpcode)

/-- The first parenthesis that this operand opens holds the base register and nothing else; behind it
stands the rest of the operand. -/
def Addresses (operand : List Lexeme) (base : String) (after : List Lexeme) : Prop :=
  ∃ before, operand = before ++ .leftParen :: .word base :: .rightParen :: after ∧
    .leftParen ∉ before

theorem addresses_iff {operand : List Lexeme} {base : String} {after : List Lexeme} :
    Addresses operand base after ↔
      operand.dropWhile (· != .leftParen) = .leftParen :: .word base :: .rightParen :: after := by
  constructor
  · rintro ⟨before, rfl, closed⟩
    have passed : ∀ lexeme ∈ before, (lexeme != .leftParen) = true := by
      intro lexeme member
      rw [bne_iff_ne]
      rintro rfl
      exact closed member
    rw [List.dropWhile_append_of_pos passed]
    rfl
  · intro opens
    refine ⟨operand.takeWhile (· != .leftParen), ?_, ?_⟩
    · rw [← opens, List.takeWhile_append_dropWhile]
    · intro member
      have passed := List.mem_takeWhile_imp member
      contradiction

theorem lexemes_past_paren (group : Group) :
    group.lexemes.dropWhile (· != .leftParen) =
      (group.tokens.dropWhile fun t => t.lexeme != .leftParen).map Token.lexeme :=
  List.dropWhile_map

theorem Addresses.unique {operand : List Lexeme} {base other : String} {after behind : List Lexeme}
    (one : Addresses operand base after) (second : Addresses operand other behind) :
    base = other ∧ after = behind := by
  rw [addresses_iff] at one second
  simpa [one] using second

theorem read_base_addressed {group : Group} {base : String} {after : List Lexeme}
    (addressed : Addresses group.lexemes base after) :
    (readBase group).register = some base ∧ ((readBase group).issue = none ↔ after = []) := by
  rw [addresses_iff, lexemes_past_paren] at addressed
  obtain ⟨opening, _, past, -, inside⟩ := List.map_eq_cons_iff.mp addressed
  obtain ⟨⟨_, baseSpan⟩, _, rfl, rfl, closes⟩ := List.map_eq_cons_iff.mp inside
  obtain ⟨⟨_, closeSpan⟩, rest, rfl, rfl, rfl⟩ := List.map_eq_cons_iff.mp closes
  rw [readBase, past]
  apply And.intro rfl
  cases rest <;> simp

theorem read_base_unaddressed {group : Group}
    (shapeless : ¬ ∃ base after, Addresses group.lexemes base after) :
    ∃ issue, readBase group = ⟨none, some issue⟩ := by
  unfold readBase
  split
  · split <;> exact ⟨_, rfl⟩
  case h_2 opening inside past =>
    split
    case h_1 base baseSpan closeSpan rest =>
      have opens := List.head?_dropWhile_not (fun t : Token => t.lexeme != .leftParen) group.tokens
      rw [past] at opens
      have paren : opening.lexeme = .leftParen := bne_eq_false_iff_eq.mp opens
      refine absurd ⟨base, rest.map Token.lexeme, ?_⟩ shapeless
      rw [addresses_iff, lexemes_past_paren, past, List.map_cons, paren]
      rfl
    all_goals exact ⟨_, rfl⟩

/-- An address gives the base register behind its first parenthesis and no other; it is faultless if
the operand ends there. -/
theorem read_base_iff (group : Group) :
    (∀ base, (readBase group).register = some base ↔ ∃ after, Addresses group.lexemes base after) ∧
      ((readBase group).issue = none ↔ ∃ base, Addresses group.lexemes base []) := by
  by_cases shape : ∃ base after, Addresses group.lexemes base after
  · obtain ⟨base, after, addressed⟩ := shape
    obtain ⟨register, silent⟩ := read_base_addressed addressed
    rw [register, silent]
    constructor
    · intro other
      constructor
      · intro same
        rw [← Option.some.inj same]
        exact ⟨after, addressed⟩
      · rintro ⟨behind, second⟩
        exact congrArg some (addressed.unique second).1
    · constructor
      · rintro rfl
        exact ⟨base, addressed⟩
      · rintro ⟨other, second⟩
        exact (addressed.unique second).2
  · obtain ⟨issue, read⟩ := read_base_unaddressed shape
    rw [read]
    simp only [not_exists] at shape
    simp [shape]

def LoadsFrom (operands : List (List Lexeme)) (base : String) (after : List Lexeme) : Prop :=
  StartsWithWord operands ∧ ∃ address, operands[1]? = some address ∧ Addresses address base after

theorem loads_from_cons_iff {register : String} {address : List Lexeme}
    {rest : List (List Lexeme)} {base : String} {after : List Lexeme} :
    LoadsFrom ([.word register] :: address :: rest) base after ↔ Addresses address base after := by
  constructor
  · rintro ⟨-, second, same, addressed⟩
    rwa [Option.some.inj same]
  · intro addressed
    exact ⟨⟨register, rfl⟩, address, rfl, addressed⟩

structure ReadsBase (operands : List (List Lexeme)) (extract : Extract) : Prop where
  sources : ∃ base : Option String, extract.sources = base.toList ∧
    ∀ register, base = some register ↔ ∃ after, LoadsFrom operands register after
  silent : extract.issue = none ↔ ∃ base, LoadsFrom operands base []

/-- Where the operands do not have the shape of a load nothing is read, and that is complained of. -/
theorem ReadsBase.of_no_shape {operands : List (List Lexeme)} {extract : Extract}
    (shapeless : ∀ base after, ¬ LoadsFrom operands base after) (nothing : extract.sources = [])
    (complains : extract.issue ≠ none) : ReadsBase operands extract := by
  apply ReadsBase.mk
  case sources => exact ⟨none, nothing, by simp [shapeless]⟩
  case silent => simp [shapeless, complains]

namespace Extract

theorem load_of_address {first : Group} {register : String} (word : first.lexemes = [.word register])
    (stop : Nat) (address : Group) (rest : List Group) :
    indexedLoad stop (first :: address :: rest) =
      ⟨some register, (readBase address).register.toList, (readBase address).issue⟩ :=
  with_destination_of_word word stop _ (address :: rest)

theorem load_ignores_further_operands (stop : Nat) (groups : List Group) :
    indexedLoad stop (groups.take 2) = indexedLoad stop groups := by
  cases groups with
  | nil => rfl
  | cons first rest => cases rest <;> rfl

theorem load_reads_base (stop : Nat) (groups : List Group) :
    ReadsBase (groups.map Group.lexemes) (indexedLoad stop groups) := by
  cases groups with
  | nil =>
      apply ReadsBase.of_no_shape _ rfl (Option.some_ne_none _)
      intro base after loads
      exact no_operand_no_word loads.1
  | cons first rest =>
      rw [List.map_cons]
      cases single : isSingleWord first.lexemes with
      | false =>
          obtain ⟨issue, read⟩ := with_destination_of_fault single stop _ rest
          rw [indexedLoad, read]
          apply ReadsBase.of_no_shape _ rfl (Option.some_ne_none _)
          intro base after loads
          exact not_starts_of_fault single _ loads.1
      | true =>
          obtain ⟨register, word⟩ := single_word_iff.mp single
          cases rest with
          | nil =>
              rw [indexedLoad, with_destination_of_word word]
              apply ReadsBase.of_no_shape _ rfl (Option.some_ne_none _)
              rintro base after ⟨-, address, missing, -⟩
              contradiction
          | cons address others =>
              obtain ⟨base, silent⟩ := read_base_iff address
              rw [load_of_address word, word, List.map_cons]
              apply ReadsBase.mk
              case sources =>
                refine ⟨(readBase address).register, rfl, ?_⟩
                simp only [loads_from_cons_iff]
                exact base
              case silent =>
                simp only [loads_from_cons_iff]
                exact silent

end Extract

theorem Operands.load_tells {text : List Char} (loads : (ofText text).opClass = .indexedLoad) :
    (ofText text).Tells (ofText text).opcode
      (Extract.indexedLoad 0 ((operandsOf text).map Group.ofLexemes)) := by
  have tells := of_text_reads text
  rw [loads] at tells
  exact tells

/-- A load reads a register exactly when its first operand is a single word and the first parenthesis
that its second operand opens holds one word and is closed at once: that word, and nothing in every
other case. Apart from bad characters nothing is wrong with it exactly when moreover the second
operand ends there. The operands behind the second do not matter at all. -/
theorem load_reads_behind_first_parenthesis (text : List Char)
    (loads : (Operands.ofText text).opClass = .indexedLoad) :
    (∀ base, (Operands.ofText text).sources = [base] ↔
        ∃ after, LoadsFrom (operandsOf text) base after) ∧
      ((Operands.ofText text).sources = [] ↔
        ¬ ∃ base after, LoadsFrom (operandsOf text) base after) ∧
      ((Operands.ofText text).complaints = [] ↔ ∃ base, LoadsFrom (operandsOf text) base []) ∧
      ∀ other, (Operands.ofText other).opcode = (Operands.ofText text).opcode →
        (operandsOf other).take 2 = (operandsOf text).take 2 →
          (Operands.ofText other).Alike (Operands.ofText text) := by
  have tells := Operands.load_tells loads
  have reads := Extract.load_reads_base 0 ((operandsOf text).map Group.ofLexemes)
  rw [lexemes_of_lexemes] at reads
  obtain ⟨base, sources, register⟩ := reads.sources
  rw [← tells.sources] at sources
  refine ⟨?_, ?_, ?_, ?_⟩
  · intro named
    rw [sources, Option.toList_eq_singleton_iff, register]
  · rw [sources, Option.toList_eq_nil_iff, Option.eq_none_iff_forall_ne_some, not_exists]
    simp only [ne_eq, register]
  · rw [tells.complaints, List.map_eq_nil_iff, Option.toList_eq_nil_iff, reads.silent]
  · intro other opcode same
    have otherLoads : (Operands.ofText other).opClass = .indexedLoad :=
      (congrArg ofOpcode opcode).trans loads
    have otherTells := Operands.load_tells otherLoads
    rw [← Extract.load_ignores_further_operands, ← List.map_take] at tells otherTells
    rw [opcode, same] at otherTells
    exact otherTells.alike tells

/-- What follows the address in its own operand is complained of, what follows in further operands is
not, and a parenthesis that is closed before the first one opens does not matter. -/
theorem further_operands_of_a_load :
    let text := "flw ft0,)4(a1)x,(y".toList
    let other := "flw ft0,)4(a1)x".toList
    (Operands.ofText text).opClass = .indexedLoad ∧
      (Operands.ofText other).opcode = (Operands.ofText text).opcode ∧
      (operandsOf other).take 2 = (operandsOf text).take 2 ∧
      (Operands.ofText text).sources = ["a1"] ∧
      (Operands.ofText other).sources = ["a1"] ∧
      (Operands.ofText other).complaints = [.afterAddress (.word "x")] := by
  intro text other
  have loads : (Operands.ofText text).opClass = .indexedLoad := by decide
  obtain ⟨base, -, -, further⟩ := load_reads_behind_first_parenthesis text loads
  have shape : LoadsFrom (operandsOf text) "a1" [.word "x"] :=
    ⟨⟨"ft0", by decide⟩, _, rfl, [.rightParen, .word "4"], by decide, by decide⟩
  have sources : (Operands.ofText text).sources = ["a1"] := (base "a1").mpr ⟨_, shape⟩
  have complaints : (Operands.ofText text).complaints = [.afterAddress (.word "x")] := by decide
  have opcode : (Operands.ofText other).opcode = (Operands.ofText text).opcode := by decide
  have same : (operandsOf other).take 2 = (operandsOf text).take 2 := by decide
  have alike := further other opcode same
  exact ⟨loads, opcode, same, sources, alike.sources.trans sources,
    alike.complaints.trans complaints⟩

end Retirement.Instruction
