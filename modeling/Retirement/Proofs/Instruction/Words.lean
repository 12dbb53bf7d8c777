import Retirement.Proofs.Instruction.LoadAddress
import Retirement.Proofs.Instruction.Registers
import Retirement.Proofs.Text.Lines
import Retirement.Proofs.Text.Trimming

/-!
What the registers of an instruction look like. Each of them is a word that stands in some operand,
and so behind the opcode, whatever is wrong with the text; how many there can be is settled by the
class. A word has no character that separates words, opens a comment or breaks a line.
-/

namespace Retirement.Instruction

open OpClass (ofOpcode)
open Text (byteLength)

def IsWord (text : String) : Prop :=
  text.toList ≠ [] ∧ ∀ c ∈ text.toList, isWordChar c = true

theorem word_of_text_is_word {text : List Char} {word : String} (found : IsWordOf text word) :
    IsWord word := by
  obtain ⟨t, scanned, lexeme⟩ := found
  obtain ⟨before, inner, after, _, _, _, stands⟩ :=
    (scan_is_partition text).fits _ (token_merged scanned)
  rw [lexeme] at stands
  exact ⟨stands.1, stands.2.1⟩

theorem IsWord.without {word : String} (isWord : IsWord word) {c : Char}
    (outside : isWordChar c = false) : c ∉ word.toList := by
  intro member
  have inside := isWord.2 c member
  rw [outside] at inside
  contradiction

theorem IsWord.on_one_line {word : String} (isWord : IsWord word) : Text.lineFeeds word = 0 :=
  List.count_eq_zero.mpr (isWord.without (by decide))

theorem alphanum_range {c : Char} (alphanum : c.isAlphanum = true) :
    0x30 ≤ c.toNat ∧ c.toNat ≤ 0x7A := by
  have ranges : c.isAlphanum =
      (decide ('A'.val ≤ c.val ∧ c.val ≤ 'Z'.val) ||
        (decide ('a'.val ≤ c.val) && decide (c.val ≤ 'z'.val)) ||
        (decide ('0'.val ≤ c.val) && decide (c.val ≤ '9'.val))) := rfl
  simp only [ranges, Bool.or_eq_true, Bool.and_eq_true, decide_eq_true_eq,
    UInt32.le_iff_toNat_le] at alphanum
  have value : c.toNat = c.val.toNat := rfl
  have bounds : 'A'.val.toNat = 65 ∧ 'Z'.val.toNat = 90 ∧ 'a'.val.toNat = 97 ∧
      'z'.val.toNat = 122 ∧ '0'.val.toNat = 48 ∧ '9'.val.toNat = 57 := by decide
  omega

theorem word_char_is_no_blank {c : Char} (inside : isWordChar c = true) :
    Text.isBlank c = false := by
  have range : 0x20 < c.toNat ∧ c.toNat < 0x85 := by
    rw [isWordChar, Bool.or_eq_true] at inside
    rcases inside with letter | mark
    · have bounds := alphanum_range letter
      omega
    · simp only [List.contains_eq_mem, List.mem_cons, List.not_mem_nil, or_false,
        decide_eq_true_eq] at mark
      rcases mark with rfl | rfl | rfl | rfl | rfl | rfl | rfl | rfl | rfl | rfl <;> decide
  exact Text.no_blank_between range.1 range.2

def Names (operands : List (List Lexeme)) (word : String) : Prop :=
  ∃ operand ∈ operands, .word word ∈ operand

theorem leading_word_mem {operand : List Lexeme} {word : String}
    (leads : leadingWord? operand = some word) : .word word ∈ operand := by
  match operand, leads with
  | .word register :: rest, leads =>
      rw [← Option.some.inj leads]
      exact List.mem_cons_self

theorem names_of_first {operands : List (List Lexeme)} {word : String}
    (leads : operands.head?.bind leadingWord? = some word) : Names operands word := by
  obtain ⟨operand, first, leads⟩ := Option.bind_eq_some_iff.mp leads
  exact ⟨operand, List.mem_of_head? first, leading_word_mem leads⟩

theorem names_of_words_up_to {operands : List (List Lexeme)} {place : Nat} {word : String}
    (member : word ∈ wordsUpTo place operands) : Names operands word := by
  rcases List.mem_append.mp member with before | here
  · obtain ⟨operand, taken, leads⟩ := List.mem_filterMap.mp before
    exact ⟨operand, List.mem_of_mem_take taken, leading_word_mem leads⟩
  · obtain ⟨operand, found, leads⟩ := Option.bind_eq_some_iff.mp (Option.mem_toList.mp here)
    exact ⟨operand, List.mem_of_getElem? found, leading_word_mem leads⟩

theorem names_of_loads_from {operands : List (List Lexeme)} {base : String} {after : List Lexeme}
    (loads : LoadsFrom operands base after) : Names operands base := by
  obtain ⟨_, address, found, before, rfl, _⟩ := loads
  exact ⟨_, List.mem_of_getElem? found, by simp⟩

theorem read_register_leading (group : Group) :
    (readRegister group).register = leadingWord? group.lexemes := by
  rcases read_register_cases group with ⟨register, single, read⟩ | ⟨_, issue, read⟩
  · rw [read, single]
    rfl
  · rw [read]

namespace Extract

theorem with_destination_leading (stop : Nat) (readRest : List Group → List String × Option Issue)
    (groups : List Group) :
    (withDestination stop readRest groups).destination =
      (groups.map Group.lexemes).head?.bind leadingWord? := by
  cases groups with
  | nil => rfl
  | cons first rest =>
      rw [List.map_cons, List.head?_cons, Option.bind_some, ← read_register_leading, withDestination]
      split
      case h_1 register read => rw [read]
      case h_2 register issue read => rw [read]

/-- Nothing is read behind an operand that should be written and is not. -/
theorem with_destination_writes {stop : Nat} {readRest : List Group → List String × Option Issue}
    {groups : List Group} (reads : (withDestination stop readRest groups).sources ≠ []) :
    (withDestination stop readRest groups).destination.isSome = true := by
  cases groups with
  | nil => contradiction
  | cons first rest =>
      cases single : isSingleWord first.lexemes with
      | false =>
          obtain ⟨issue, read⟩ := with_destination_of_fault single stop readRest rest
          rw [read] at reads
          contradiction
      | true =>
          obtain ⟨register, word⟩ := single_word_iff.mp single
          rw [with_destination_of_word word]
          rfl

theorem load_sources_length (stop : Nat) (groups : List Group) :
    (indexedLoad stop groups).sources.length ≤ 1 := by
  obtain ⟨base, sources, _⟩ := (load_reads_base stop groups).sources
  rw [sources]
  exact Option.length_toList_le

theorem branch_sources_length (stop : Nat) (groups : List Group) :
    (conditionalBranch stop groups).sources.length ≤ 1 := by
  cases groups with
  | nil => exact Nat.zero_le 1
  | cons first rest => exact Option.length_toList_le

theorem arithmetic_names (stop : Nat) (groups : List Group) :
    ∀ register ∈ (arithmetic stop groups).sources, Names (groups.map Group.lexemes) register := by
  have reads := arithmetic_up_to_fault stop groups
  intro register member
  by_cases starts : StartsWithWord (groups.map Group.lexemes)
  · rw [reads.sources starts, List.mem_eraseDups] at member
    obtain ⟨operand, further, found⟩ := names_of_words_up_to member
    exact ⟨operand, List.mem_of_mem_tail further, found⟩
  · rw [reads.nothing starts] at member
    contradiction

theorem load_names (stop : Nat) (groups : List Group) :
    ∀ register ∈ (indexedLoad stop groups).sources, Names (groups.map Group.lexemes) register := by
  obtain ⟨base, sources, loads⟩ := (load_reads_base stop groups).sources
  intro register member
  rw [sources, Option.mem_toList] at member
  obtain ⟨after, loadsFrom⟩ := (loads register).mp member
  exact names_of_loads_from loadsFrom

theorem branch_names (stop : Nat) (groups : List Group) :
    ∀ register ∈ (conditionalBranch stop groups).sources,
      Names (groups.map Group.lexemes) register := by
  cases groups with
  | nil => simp [conditionalBranch, missing]
  | cons first rest =>
      intro register member
      have leads : leadingWord? first.lexemes = some register := by
        rw [← read_register_leading]
        exact Option.mem_toList.mp member
      exact names_of_first (by rwa [List.map_cons])

/-- Whatever the class and whatever is wrong, every register is a word of some operand. -/
theorem of_class_names (stop : Nat) (opClass : OpClass) (groups : List Group) :
    ∀ register ∈ (ofClass stop opClass groups).destination.toList ++
        (ofClass stop opClass groups).sources,
      Names (groups.map Group.lexemes) register := by
  intro register member
  rw [List.mem_append, Option.mem_toList] at member
  cases opClass with
  | arithmetic | fusedMultiplyAccumulate =>
      rcases member with written | read
      · exact names_of_first ((with_destination_leading stop _ groups).symm.trans written)
      · exact arithmetic_names stop groups register read
  | indexedLoad =>
      rcases member with written | read
      · exact names_of_first ((with_destination_leading stop _ groups).symm.trans written)
      · exact load_names stop groups register read
  | conditionalBranch =>
      rcases member with written | read
      · have nothing : (ofClass stop .conditionalBranch groups).destination = none :=
          branch_without_destination stop groups
        rw [nothing] at written
        contradiction
      · exact branch_names stop groups register read
  | unclassified =>
      rcases member with written | read <;> contradiction

theorem of_class_writes {stop : Nat} {opClass : OpClass} {groups : List Group}
    (noBranch : opClass ≠ .conditionalBranch) (reads : (ofClass stop opClass groups).sources ≠ []) :
    (ofClass stop opClass groups).destination.isSome = true := by
  cases opClass with
  | arithmetic | fusedMultiplyAccumulate | indexedLoad => exact with_destination_writes reads
  | conditionalBranch | unclassified => contradiction

/-- Only the computing classes read more than one register. -/
theorem of_class_sources_length {opClass : OpClass}
    (single : opClass = .conditionalBranch ∨ opClass = .indexedLoad) (stop : Nat)
    (groups : List Group) : (ofClass stop opClass groups).sources.length ≤ 1 := by
  rcases single with rfl | rfl
  · exact branch_sources_length stop groups
  · exact load_sources_length stop groups

end Extract

def operandGroups (text : List Char) : List Group :=
  groups (splitOpcode (scan text).tokens).2.1 (byteLength text)
    (splitOpcode (scan text).tokens).2.2

theorem split_known_opcode {tokens : List Token}
    (known : ofOpcode (splitOpcode tokens).1 ≠ .unclassified) :
    ∃ span, tokens = ⟨.word (splitOpcode tokens).1, span⟩ :: (splitOpcode tokens).2.2 := by
  cases tokens with
  | nil => exact absurd of_empty_opcode known
  | cons token rest =>
      obtain ⟨lexeme, span⟩ := token
      cases lexeme with
      | word opcode => exact ⟨span, rfl⟩
      | comma | leftParen | rightParen => exact absurd of_empty_opcode known

/-- The text begins with its opcode, and behind that stands this register as a word of its own. -/
def StandsBehindOpcode (text : List Char) (register : String) : Prop :=
  ∃ opcode rest, (scan text).tokens = opcode :: rest ∧
    opcode.lexeme = .word (Operands.ofText text).opcode ∧
    ∃ t ∈ rest, t.lexeme = .word register ∧ opcode.span.stop ≤ t.span.start ∧
      t.span.slice? text = some register.toList

namespace Operands

theorem of_text_extract (text : List Char) :
    Extract.ofClass (byteLength text) (ofText text).opClass (operandGroups text) =
      Extract.ofText text := rfl

theorem unknown_reads_nothing {text : List Char} (unknown : (ofText text).opClass = .unclassified) :
    (ofText text).destination = none ∧ (ofText text).sources = [] := by
  have extract := of_text_extract text
  rw [unknown] at extract
  exact ⟨congrArg Extract.destination extract.symm, congrArg Extract.sources extract.symm⟩

theorem registers_behind_opcode {text : List Char} {register : String}
    (member : register ∈ (ofText text).destination.toList ++ (ofText text).sources) :
    StandsBehindOpcode text register := by
  have known : (ofText text).opClass ≠ .unclassified := by
    intro unknown
    obtain ⟨noDestination, noSources⟩ := unknown_reads_nothing unknown
    rw [noDestination, noSources] at member
    contradiction
  obtain ⟨operand, isOperand, named⟩ := Extract.of_class_names (byteLength text)
    (ofText text).opClass (operandGroups text) register member
  obtain ⟨group, isGroup, rfl⟩ := List.mem_map.mp isOperand
  obtain ⟨t, inside, lexeme⟩ := List.mem_map.mp named
  obtain ⟨behind, -⟩ := groups_tokens isGroup t inside
  obtain ⟨span, starts⟩ := split_known_opcode known
  have apart := scanned_tokens_apart text
  have scanned : t ∈ (scan text).tokens := by
    rw [starts]
    exact List.mem_cons_of_mem _ behind
  rw [starts] at apart
  have slice := token_slice scanned
  rw [lexeme] at slice
  exact ⟨_, _, starts, rfl, t, behind, lexeme, (List.pairwise_cons.mp apart).1 t behind, slice⟩

end Operands

/-- The registers of any text are well formed, whatever is wrong with it. None is read twice, and each
is a word that stands behind the opcode, so that it has no comma, parenthesis, number sign, blank or
line break. A text without a known opcode has no registers, a branch reads at most one and writes none,
a load reads at most one, and whatever else reads a register writes one too. -/
theorem registers_are_well_formed (text : List Char) :
    let read := Operands.ofText text
    read.sources.Nodup ∧
      (∀ register ∈ read.destination.toList ++ read.sources,
        StandsBehindOpcode text register ∧ IsWord register ∧
          ∀ c ∈ register.toList, c ∉ [',', '(', ')', '#'] ∧ Text.isBlank c = false) ∧
      (read.opClass = .unclassified → read.destination = none ∧ read.sources = []) ∧
      (read.opClass = .conditionalBranch → read.destination = none ∧ read.sources.length ≤ 1) ∧
      (read.opClass = .indexedLoad → read.sources.length ≤ 1) ∧
      (read.opClass ≠ .conditionalBranch → read.sources ≠ [] →
        ∃ register, read.destination = some register) := by
  intro read
  have wellRead := Operands.well_read text
  have few : read.opClass = .conditionalBranch ∨ read.opClass = .indexedLoad →
      read.sources.length ≤ 1 := by
    intro single
    exact Extract.of_class_sources_length single (byteLength text) (operandGroups text)
  refine ⟨wellRead.distinct, ?_, Operands.unknown_reads_nothing, ?_, fun load => few (Or.inr load),
    ?_⟩
  · intro register member
    obtain ⟨structural, reported⟩ := Operands.of_text_reported text
    have isWord := word_of_text_is_word (reported.registers.registers register member)
    refine ⟨Operands.registers_behind_opcode member, isWord, ?_⟩
    intro c inside
    constructor
    · intro mark
      have outside : isWordChar c = false := by
        simp only [List.mem_cons, List.not_mem_nil, or_false] at mark
        rcases mark with rfl | rfl | rfl | rfl <;> decide
      exact isWord.without outside inside
    · exact word_char_is_no_blank (isWord.2 c inside)
  · intro branch
    have noWrite : ¬ read.destination.isSome = true := by
      intro written
      have writes := wellRead.writes written
      rw [branch] at writes
      simp [OpClass.Writes] at writes
    exact ⟨Option.not_isSome_iff_eq_none.mp noWrite, few (Or.inl branch)⟩
  · intro noBranch reads
    exact Option.isSome_iff_exists.mp (Extract.of_class_writes noBranch reads)

/-- The base register is a word behind the opcode even where the destination is repeated as the base,
a comment stands between the two, and something is wrong behind the address. -/
theorem registers_of_odd_load :
    let text := "flw a1,# (x)\n -8(a1)y".toList
    (Operands.ofText text).destination = some "a1" ∧ (Operands.ofText text).sources = ["a1"] ∧
      (Operands.ofText text).opClass = .indexedLoad ∧
      StandsBehindOpcode text "a1" ∧ IsWord "a1" ∧ (Operands.ofText text).sources.length ≤ 1 := by
  intro text
  have destination : (Operands.ofText text).destination = some "a1" := by decide
  have sources : (Operands.ofText text).sources = ["a1"] := by decide
  have load : (Operands.ofText text).opClass = .indexedLoad := by decide
  obtain ⟨-, words, -, -, single, -⟩ := registers_are_well_formed text
  have listed : "a1" ∈
      (Operands.ofText text).destination.toList ++ (Operands.ofText text).sources := by
    rw [sources]
    exact List.mem_append_right _ List.mem_cons_self
  obtain ⟨stands, isWord, -⟩ := words "a1" listed
  exact ⟨destination, sources, load, stands, isWord, single load⟩

end Retirement.Instruction
