import Retirement.Proofs.Instruction.Grouping
import Retirement.Proofs.Instruction.Scanning

/-!
Instructions as they are written. An instruction is printed as its opcode and its operands with
commas between them, with blanks wherever one likes, as long as two words do not run together, and
with a comment behind. However it is laid out, reading gives back what was printed.
-/

namespace Retirement.Instruction

open OpClass (ofOpcode)
open Text (byteLength)

/-- The texts of a list of lexemes: blanks anywhere, a comment at the end, and every word kept apart
from what would make it longer. -/
inductive Written : List Lexeme → List Char → Prop
  | nothing : Written [] []
  | comment {body : List Char} : '\n' ∉ body → Written [] ('#' :: body)
  | blank {c : Char} {lexemes : List Lexeme} {rest : List Char} : isLayout c = true →
      Written lexemes rest → Written lexemes (c :: rest)
  | lexeme {lexeme : Lexeme} {lexemes : List Lexeme} {rest : List Char} :
      lexeme.StandsBefore rest → Written lexemes rest →
      Written (lexeme :: lexemes) (lexeme.letters ++ rest)

theorem scan_from_written {lexemes : List Lexeme} {text : List Char}
    (written : Written lexemes text) (offset : Nat) :
    ∃ tokens : List Token, scanFrom .between offset text = tokens.map .token ∧
      tokens.map Token.lexeme = lexemes := by
  induction written generalizing offset with
  | nothing => exact ⟨[], rfl, rfl⟩
  | @comment body oneLine =>
      have ends : EndsLine ([] ++ []).head? := fun c impossible => by cases impossible
      have scanned := scan_trivia (Trivia.comment oneLine ends .nothing) offset
      rw [List.append_nil, List.append_nil] at scanned
      exact ⟨[], scanned, rfl⟩
  | blank layout _ ih =>
      rw [scan_blank layout]
      exact ih _
  | @lexeme lexeme lexemes rest stands _ ih =>
      obtain ⟨tokens, scanned, same⟩ := ih (offset + byteLength lexeme.letters)
      refine ⟨⟨lexeme, ⟨offset, offset + byteLength lexeme.letters⟩⟩ :: tokens, ?_, ?_⟩
      · rw [scan_lexeme stands, scanned]
        rfl
      · rw [List.map_cons, same]

theorem scan_written {lexemes : List Lexeme} {text : List Char} (written : Written lexemes text) :
    (scan text).tokens.map Token.lexeme = lexemes ∧ (scan text).bad = [] := by
  obtain ⟨tokens, scanned, same⟩ := scan_from_written written 0
  rw [scan, scanned]
  constructor
  · rw [token_of_tokens, same]
  · exact bad_of_tokens tokens

/-- Reading a written instruction comes down to reading its operands, group by group. -/
theorem read_written {opcode : String} {operands : List (List Lexeme)} {text : List Char}
    (listed : operands ≠ []) (solid : ∀ operand ∈ operands, operand ≠ [] ∧ .comma ∉ operand)
    (written : Written (.word opcode :: commaSeparated operands) text) :
    ∃ groups stop, groups.map Group.lexemes = operands ∧
      ∀ destination sources,
        Extract.ofClass stop (ofOpcode opcode) groups = ⟨destination, sources, none⟩ →
          Operands.ofText text = ⟨opcode, ofOpcode opcode, destination, sources, []⟩ := by
  obtain ⟨lexemes, noBad⟩ := scan_written written
  obtain ⟨⟨first, span⟩, rest, tokens, rfl, others⟩ := List.map_eq_cons_iff.mp lexemes
  refine ⟨groups span.stop (byteLength text) rest, byteLength text,
    groups_of_comma_separated listed solid others _ _, ?_⟩
  intro destination sources read
  simp only [Operands.ofText, tokens, noBad, splitOpcode, read, List.map_nil, ite_self,
    List.nil_append, Option.toList_none]

namespace Extract

theorem read_arithmetic_words {groups : List Group} {destination : String} {sources : List String}
    (present : sources ≠ [])
    (words : groups.map Group.lexemes = wordOperands (destination :: sources)) (stop : Nat) :
    arithmetic stop groups = ⟨some destination, sources.eraseDups, none⟩ := by
  obtain ⟨first, rest, rfl, written, read⟩ := List.map_eq_cons_iff.mp words
  cases rest with
  | nil => exact absurd (List.map_eq_nil_iff.mp read.symm) present
  | cons second others =>
      rw [arithmetic, withDestination, read_register_word written]
      simp only [read_sources_words read]

theorem read_load_words {groups : List Group} {destination base : String} {offset : Option String}
    (operands : groups.map Group.lexemes = [[.word destination], address offset base])
    (stop : Nat) :
    indexedLoad stop groups = ⟨some destination, [base], none⟩ := by
  obtain ⟨first, rest, rfl, written, others⟩ := List.map_eq_cons_iff.mp operands
  obtain ⟨second, rfl, read⟩ := List.map_eq_singleton_iff.mp others
  rw [indexedLoad, withDestination, read_register_word written]
  simp only [read_base_address read]
  rfl

theorem read_branch_words {groups : List Group} {compared : String} {others : List String}
    (words : groups.map Group.lexemes = wordOperands (compared :: others)) (stop : Nat) :
    conditionalBranch stop groups = ⟨none, [compared], none⟩ := by
  obtain ⟨first, rest, rfl, read, _⟩ := List.map_eq_cons_iff.mp words
  rw [conditionalBranch, read_register_word read]
  rfl

end Extract

/-- Whatever its layout, a printed instruction is read back without complaint: a computing one with
its destination and its sources, each source once; a load with its destination and the base of its
address; a branch with the first register it compares. -/
theorem printed_operands_read_back (opcode : String) (text : List Char) :
    (ofOpcode opcode = .arithmetic ∨ ofOpcode opcode = .fusedMultiplyAccumulate →
        ∀ (destination : String) (sources : List String), sources ≠ [] →
          Written (.word opcode :: commaSeparated (wordOperands (destination :: sources))) text →
          Operands.ofText text =
            ⟨opcode, ofOpcode opcode, some destination, sources.eraseDups, []⟩) ∧
      (ofOpcode opcode = .indexedLoad →
        ∀ (destination base : String) (offset : Option String),
          Written (.word opcode :: commaSeparated
            [[.word destination], address offset base]) text →
          Operands.ofText text = ⟨opcode, .indexedLoad, some destination, [base], []⟩) ∧
      (ofOpcode opcode = .conditionalBranch →
        ∀ (compared : String) (others : List String),
          Written (.word opcode :: commaSeparated (wordOperands (compared :: others))) text →
          Operands.ofText text = ⟨opcode, .conditionalBranch, none, [compared], []⟩) := by
  refine ⟨?_, ?_, ?_⟩
  · intro computes destination sources present written
    have listed : wordOperands (destination :: sources) ≠ [] := List.cons_ne_nil _ _
    obtain ⟨groups, stop, words, read⟩ := read_written listed (word_operands_solid _) written
    have extract := Extract.read_arithmetic_words present words stop
    apply read
    rcases computes with plain | fused
    · rw [plain]
      exact extract
    · rw [fused]
      exact extract
  · intro loads destination base offset written
    have solid : ∀ operand ∈ [[.word destination], address offset base],
        operand ≠ [] ∧ Lexeme.comma ∉ operand := by
      simp [address_solid]
    obtain ⟨groups, stop, operands, read⟩ := read_written (List.cons_ne_nil _ _) solid written
    rw [loads] at read
    exact read _ _ (Extract.read_load_words operands stop)
  · intro branches compared others written
    have listed : wordOperands (compared :: others) ≠ [] := List.cons_ne_nil _ _
    obtain ⟨groups, stop, words, read⟩ := read_written listed (word_operands_solid _) written
    rw [branches] at read
    exact read _ _ (Extract.read_branch_words words stop)

/-- The blanks may be of any kind and may be missing beside commas and parentheses, a source that
comes twice is listed once, and what a comment says does not matter. -/
theorem laid_out_instructions_read_back :
    Operands.ofText "\tadd a0 ,a1,\rx, a1# a, (".toList =
        ⟨"add", .arithmetic, some "a0", ["a1", "x"], []⟩ ∧
      Operands.ofText "flw ft0,-4( a1)".toList = ⟨"flw", .indexedLoad, some "ft0", ["a1"], []⟩ ∧
      Operands.ofText "bne a0,a1 ,\nloop".toList =
        ⟨"bne", .conditionalBranch, none, ["a0"], []⟩ := by
  obtain ⟨computes, _, _⟩ :=
    printed_operands_read_back "add" "\tadd a0 ,a1,\rx, a1# a, (".toList
  obtain ⟨_, loads, _⟩ := printed_operands_read_back "flw" "flw ft0,-4( a1)".toList
  obtain ⟨_, _, branches⟩ := printed_operands_read_back "bne" "bne a0,a1 ,\nloop".toList
  refine ⟨?_, ?_, ?_⟩
  · apply computes (Or.inl (by decide)) "a0" ["a1", "x", "a1"] (by decide)
    change Written _ ('\t' :: ("add".toList ++ ' ' :: ("a0".toList ++ ' ' :: ([','] ++
      ("a1".toList ++ ([','] ++ '\r' :: ("x".toList ++ ([','] ++ ' ' :: ("a1".toList ++
        '#' :: " a, (".toList)))))))))
    apply Written.blank (by decide)
    repeat first
      | exact .comment (by decide)
      | apply Written.lexeme (by decide)
      | apply Written.blank (by decide)
  · apply loads (by decide) "ft0" "a1" (some "-4")
    change Written _ ("flw".toList ++ ' ' :: ("ft0".toList ++ ([','] ++ ("-4".toList ++
      (['('] ++ ' ' :: ("a1".toList ++ ([')'] ++ [])))))))
    repeat first
      | exact .nothing
      | apply Written.lexeme (by decide)
      | apply Written.blank (by decide)
  · apply branches (by decide) "a0" ["a1", "loop"]
    change Written _ ("bne".toList ++ ' ' :: ("a0".toList ++ ([','] ++ ("a1".toList ++ ' ' ::
      ([','] ++ '\n' :: ("loop".toList ++ []))))))
    repeat first
      | exact .nothing
      | apply Written.lexeme (by decide)
      | apply Written.blank (by decide)

end Retirement.Instruction
