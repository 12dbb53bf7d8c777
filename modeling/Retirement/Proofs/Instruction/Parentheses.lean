import Retirement.Proofs.Instruction.LoadAddress

/-!
Parentheses in the address of a load. Whether they come in matched pairs is decided by counting those
that are open. An address whose parentheses do not match is complained of, with one exception: what
stands before the first opening parenthesis is not looked at, so that a parenthesis which is closed
there goes unnoticed if a faultless base register follows and ends the operand.
-/

namespace Retirement.Instruction

inductive Balanced : List Lexeme → Prop
  | nothing : Balanced []
  | other {lexeme : Lexeme} {rest : List Lexeme} : lexeme ≠ .leftParen → lexeme ≠ .rightParen →
      Balanced rest → Balanced (lexeme :: rest)
  | pair {inside rest : List Lexeme} : Balanced inside → Balanced rest →
      Balanced (.leftParen :: (inside ++ .rightParen :: rest))

/-- Whether so many open parentheses are closed, and every further one with its own. -/
def closesAll : Nat → List Lexeme → Bool
  | depth, [] => depth == 0
  | depth, .leftParen :: rest => closesAll (depth + 1) rest
  | 0, .rightParen :: _ => false
  | depth + 1, .rightParen :: rest => closesAll depth rest
  | depth, _ :: rest => closesAll depth rest

theorem closes_all_past_other {lexeme : Lexeme} (noLeft : lexeme ≠ .leftParen)
    (noRight : lexeme ≠ .rightParen) (depth : Nat) (rest : List Lexeme) :
    closesAll depth (lexeme :: rest) = closesAll depth rest := by
  cases lexeme with
  | leftParen | rightParen => contradiction
  | comma | word text => cases depth <;> rfl

theorem closes_all_past_balanced {lexemes : List Lexeme} (balanced : Balanced lexemes) (depth : Nat)
    (rest : List Lexeme) : closesAll depth (lexemes ++ rest) = closesAll depth rest := by
  induction balanced generalizing depth rest with
  | nothing => rfl
  | other noLeft noRight _ ih => rw [List.cons_append, closes_all_past_other noLeft noRight, ih]
  | @pair inside behind _ _ ihInside ihBehind =>
      calc
        closesAll depth (.leftParen :: (inside ++ .rightParen :: behind) ++ rest)
          = closesAll (depth + 1) (inside ++ .rightParen :: (behind ++ rest)) := by
            rw [List.cons_append, List.append_assoc, List.cons_append, closesAll]
        _ = closesAll (depth + 1) (.rightParen :: (behind ++ rest)) := ihInside _ _
        _ = closesAll depth (behind ++ rest) := by rw [closesAll]
        _ = closesAll depth rest := ihBehind _ _

theorem Balanced.append {lexemes more : List Lexeme} (first : Balanced lexemes)
    (second : Balanced more) : Balanced (lexemes ++ more) := by
  induction first with
  | nothing => exact second
  | other noLeft noRight _ ih => exact .other noLeft noRight ih
  | pair inside _ _ ih =>
      rw [List.cons_append, List.append_assoc, List.cons_append]
      exact .pair inside ih

/-- The lexemes close so many parentheses that are open before them, with matched pairs between. -/
def Closes : Nat → List Lexeme → Prop
  | 0, lexemes => Balanced lexemes
  | depth + 1, lexemes => ∃ inside rest,
      lexemes = inside ++ .rightParen :: rest ∧ Balanced inside ∧ Closes depth rest

theorem Closes.after_balanced {lexemes rest : List Lexeme} {depth : Nat} (balanced : Balanced lexemes)
    (closes : Closes depth rest) : Closes depth (lexemes ++ rest) := by
  cases depth with
  | zero => exact balanced.append closes
  | succ depth =>
      obtain ⟨inside, behind, rfl, insideBalanced, further⟩ := closes
      exact ⟨lexemes ++ inside, behind, (List.append_assoc _ _ _).symm,
        balanced.append insideBalanced, further⟩

theorem closes_of_closes_all {depth : Nat} {lexemes : List Lexeme}
    (counted : closesAll depth lexemes = true) : Closes depth lexemes := by
  induction lexemes generalizing depth with
  | nil =>
      rw [closesAll, beq_iff_eq] at counted
      rw [counted]
      exact .nothing
  | cons lexeme rest ih =>
      cases lexeme with
      | leftParen =>
          obtain ⟨inside, behind, rfl, balanced, further⟩ := ih counted
          have pair : Balanced (.leftParen :: (inside ++ [.rightParen])) := .pair balanced .nothing
          have closes := Closes.after_balanced pair further
          rwa [List.cons_append, List.append_assoc, List.singleton_append] at closes
      | rightParen =>
          cases depth with
          | zero => contradiction
          | succ depth => exact ⟨[], rest, rfl, .nothing, ih counted⟩
      | comma | word text =>
          rw [closes_all_past_other Lexeme.noConfusion Lexeme.noConfusion] at counted
          exact Closes.after_balanced (.other Lexeme.noConfusion Lexeme.noConfusion .nothing)
            (ih counted)

theorem balanced_iff_closes_all {lexemes : List Lexeme} :
    Balanced lexemes ↔ closesAll 0 lexemes = true := by
  constructor
  · intro balanced
    have counted := closes_all_past_balanced balanced 0 []
    rw [List.append_nil] at counted
    exact counted
  · exact closes_of_closes_all

instance (lexemes : List Lexeme) : Decidable (Balanced lexemes) :=
  decidable_of_iff _ balanced_iff_closes_all.symm

theorem balanced_without_parens {lexemes : List Lexeme} (unopened : .leftParen ∉ lexemes)
    (unclosed : .rightParen ∉ lexemes) : Balanced lexemes := by
  induction lexemes with
  | nil => exact .nothing
  | cons lexeme rest ih =>
      rw [List.mem_cons, not_or] at unopened unclosed
      exact .other (Ne.symm unopened.1) (Ne.symm unclosed.1) (ih unopened.2 unclosed.2)

theorem unbalanced_of_early_close {lexemes : List Lexeme} (unopened : .leftParen ∉ lexemes)
    (closed : .rightParen ∈ lexemes) (rest : List Lexeme) : ¬ Balanced (lexemes ++ rest) := by
  rw [balanced_iff_closes_all, Bool.not_eq_true]
  induction lexemes with
  | nil => contradiction
  | cons lexeme more ih =>
      rw [List.mem_cons, not_or] at unopened
      by_cases here : lexeme = .rightParen
      · rw [here]
        rfl
      · have later : .rightParen ∈ more := List.mem_of_ne_of_mem (Ne.symm here) closed
        rw [List.cons_append, closes_all_past_other (Ne.symm unopened.1) here]
        exact ih unopened.2 later

/-- An address with a faultless base at its end is balanced unless a parenthesis is closed before the
first one is opened. -/
theorem balanced_address_iff {before : List Lexeme} (unopened : .leftParen ∉ before) (base : String) :
    Balanced (before ++ [.leftParen, .word base, .rightParen]) ↔ .rightParen ∉ before := by
  constructor
  · intro balanced closed
    exact unbalanced_of_early_close unopened closed _ balanced
  · intro unclosed
    have parens : Balanced [.leftParen, .word base, .rightParen] := by
      rw [balanced_iff_closes_all]
      rfl
    exact (balanced_without_parens unopened unclosed).append parens

theorem Operands.load_silent_iff {text : List Char} (loads : (ofText text).opClass = .indexedLoad) :
    (ofText text).issues = [] ↔
      (scan text).bad = [] ∧ ∃ base, LoadsFrom (operandsOf text) base [] := by
  have known : (ofText text).opClass ≠ .unclassified := by
    rw [loads]
    exact OpClass.noConfusion
  have reads := Extract.load_reads_base 0 ((operandsOf text).map Group.ofLexemes)
  rw [lexemes_of_lexemes] at reads
  rw [issues_nil_iff known, (load_tells loads).complaints, List.map_eq_nil_iff,
    Option.toList_eq_nil_iff, reads.silent]

/-- Unbalanced parentheses in the address of a load are complained of, if its destination is a single
word, except in one shape: with no bad character in the text, the operand ends with its base register
in the first parentheses that it opens, and a parenthesis is closed before these. -/
theorem unbalanced_address_is_reported {text : List Char} {address : List Lexeme}
    (loads : (Operands.ofText text).opClass = .indexedLoad)
    (starts : StartsWithWord (operandsOf text)) (second : (operandsOf text)[1]? = some address)
    (unbalanced : ¬ Balanced address) :
    (Operands.ofText text).issues ≠ [] ↔
      ¬ ((scan text).bad = [] ∧ ∃ before base,
        address = before ++ [.leftParen, .word base, .rightParen] ∧ .leftParen ∉ before ∧
          .rightParen ∈ before) := by
  rw [Ne, Operands.load_silent_iff loads, not_iff_not, and_congr_right_iff]
  intro _
  constructor
  · rintro ⟨base, -, found, isSecond, before, shape, unopened⟩
    obtain rfl := Option.some.inj (second.symm.trans isSecond)
    rw [shape, balanced_address_iff unopened, not_not] at unbalanced
    exact ⟨before, base, shape, unopened, unbalanced⟩
  · rintro ⟨before, base, shape, unopened, -⟩
    exact ⟨base, starts, address, second, before, shape, unopened⟩

/-- A second closing parenthesis behind the address is complained of. -/
theorem second_closing_paren_is_reported :
    let text := "flw ft0,4(a1))".toList
    let address : List Lexeme := [.word "4", .leftParen, .word "a1", .rightParen, .rightParen]
    (Operands.ofText text).opClass = .indexedLoad ∧ StartsWithWord (operandsOf text) ∧
      (operandsOf text)[1]? = some address ∧ ¬ Balanced address ∧
      (Operands.ofText text).issues ≠ [] := by
  intro text address
  have loads : (Operands.ofText text).opClass = .indexedLoad := by decide
  have starts : StartsWithWord (operandsOf text) := ⟨"ft0", by decide⟩
  have second : (operandsOf text)[1]? = some address := by decide
  have unbalanced : ¬ Balanced address := by decide
  refine ⟨loads, starts, second, unbalanced,
    (unbalanced_address_is_reported loads starts second unbalanced).mpr ?_⟩
  rintro ⟨-, before, base, shape, -⟩
  have backwards := congrArg List.reverse shape
  rw [List.reverse_append] at backwards
  simp [address] at backwards

/-- A parenthesis that is closed before the first one opens is not noticed. -/
theorem early_closing_paren_goes_unnoticed :
    let text := "flw ft0,)(a0)".toList
    let address : List Lexeme := [.rightParen, .leftParen, .word "a0", .rightParen]
    (Operands.ofText text).opClass = .indexedLoad ∧ StartsWithWord (operandsOf text) ∧
      (operandsOf text)[1]? = some address ∧ ¬ Balanced address ∧
      (Operands.ofText text).issues = [] := by
  intro text address
  have starts : StartsWithWord (operandsOf text) := ⟨"ft0", by decide⟩
  exact ⟨by decide, starts, by decide, by decide, by decide⟩

end Retirement.Instruction
