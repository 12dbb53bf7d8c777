import Retirement.Proofs.Instruction.Issues
import Retirement.Proofs.Task.Building

/-!
Where diagnostics point. The issues of an instruction lie inside its text, between characters, and
there is at most one beside those of bad characters; so every diagnostic of building names one of the
rows, and its span can be sliced out of that row's text.
-/

namespace Retirement

open Instruction (Operands Issue BadCharacter scan)

theorem build_diagnostic_located (checkOrder : Bool) (rows : List Row) {d : Diagnostic}
    (member : d ∈ (buildTasks checkOrder rows).diagnostics) :
    ∃ index row, d.row = some index ∧ rows[index]? = some row ∧
      ∀ span ∈ d.span, span.Within row.mnemonic.toList := by
  obtain ⟨position, row, last, isRow, finding, found, rfl⟩ :=
    build_from_diagnostic checkOrder 0 none rows member
  rw [Nat.zero_add]
  cases finding with
  | emptyInterval => exact ⟨position, row, rfl, isRow, by simp [Finding.diagnostic]⟩
  | outOfOrder pc previous => exact ⟨position, row, rfl, isRow, by simp [Finding.diagnostic]⟩
  | operand issue =>
      rw [operand_found_iff] at found
      have within := Operands.issue_within found
      refine ⟨position, row, rfl, isRow, ?_⟩
      intro span same
      cases same
      exact within

/-- Whatever the text, its issues are well located and at most one of them is about the form of the
operands. A text without a known opcode has none; any other has one for each bad character, in the
order and with the span and message of the scan, and then at most one of another kind. Every issue
lies between characters of the text, every lexeme and bad character is what its span slices out, and
reading takes its words from such spans. So every diagnostic of building names a row that is there,
and its span, if it has one, can be sliced out of that row's text. -/
theorem issues_are_well_located :
    (∀ text : List Char,
      let read := Operands.ofText text
      (read.opClass = .unclassified → read.issues = []) ∧
      (read.opClass ≠ .unclassified → ∃ structural : Option Issue,
        read.issues.map Issue.report =
          (scan text).bad.map BadCharacter.report ++ structural.toList.map Issue.report ∧
        ∀ issue ∈ structural, issue.problem.kind ≠ .badCharacter) ∧
      (∀ issue ∈ read.issues, issue.span.Within text) ∧
      (∀ t ∈ (scan text).tokens,
        t.span.Within text ∧ t.span.slice? text = some t.lexeme.letters) ∧
      (∀ b ∈ (scan text).bad, b.span.Within text ∧ b.span.slice? text = some [b.char]) ∧
      ∀ word ∈ read.taken, word ≠ "" →
        ∃ t ∈ (scan text).tokens, t.lexeme = .word word ∧
          t.span.slice? text = some word.toList) ∧
    ∀ (checkOrder : Bool) (rows : List Row), ∀ d ∈ (buildTasks checkOrder rows).diagnostics,
      ∃ index row, d.row = some index ∧ rows[index]? = some row ∧
        ∀ span ∈ d.span, ∃ inner, span.slice? row.mnemonic.toList = some inner := by
  constructor
  · intro text read
    obtain ⟨structural, reported⟩ := Operands.of_text_reported text
    refine ⟨?_, ?_, fun issue => Operands.issue_within, ?_, ?_, ?_⟩
    · intro unknown
      rw [reported.issues, if_pos unknown, reported.silent unknown]
      rfl
    · intro known
      refine ⟨structural, ?_, fun issue member => (reported.registers.issue issue member).kind⟩
      rw [reported.issues, if_neg known, List.map_append, List.map_map]
      rfl
    · intro t scanned
      exact ⟨Instruction.token_within scanned, Instruction.token_slice scanned⟩
    · intro b scanned
      exact ⟨Instruction.bad_within scanned, Instruction.bad_slice scanned⟩
    · intro word member filled
      obtain ⟨t, scanned, isWord⟩ := (Operands.taken_is_word member).resolve_left filled
      have sliced := Instruction.token_slice scanned
      rw [isWord] at sliced
      exact ⟨t, scanned, isWord, sliced⟩
  · intro checkOrder rows d member
    obtain ⟨index, row, named, isRow, within⟩ := build_diagnostic_located checkOrder rows member
    refine ⟨index, row, named, isRow, ?_⟩
    intro span found
    exact Option.isSome_iff_exists.mp (Span.slice_isSome_iff.mpr (within span found))

/-- Nothing but a bad character of two bytes stands before the first comma, and the empty operand is
found around it. -/
theorem empty_operand_around_bad_character :
    let text := "addi é,,a1".toList
    (Operands.ofText text).opClass ≠ .unclassified ∧
      (∃ structural : Option Issue,
        (Operands.ofText text).issues.map Issue.report =
          (scan text).bad.map BadCharacter.report ++ structural.toList.map Issue.report ∧
        ∀ issue ∈ structural, issue.problem.kind ≠ .badCharacter) ∧
      Issue.mk .emptyOperand ⟨4, 7⟩ ∈ (Operands.ofText text).issues ∧
      Span.Within text ⟨4, 7⟩ := by
  intro text
  obtain ⟨_, reports, within, _⟩ := issues_are_well_located.1 text
  have known : (Operands.ofText text).opClass ≠ .unclassified := by decide
  have found : Issue.mk .emptyOperand ⟨4, 7⟩ ∈ (Operands.ofText text).issues := by decide
  exact ⟨known, reports known, found, within _ found⟩

end Retirement
