import Retirement.Proofs.Instruction.Layout

/-!
How far the operands of a computing instruction are read. The first operand is written and the
others are read, up to the first that is not a single word; of that one the leading word still
counts, and nothing behind it does. Something is wrong with the form of the operands exactly when
reading ends before the last of them, or when one that is needed is missing.
-/

namespace Retirement.Instruction

def isSingleWord : List Lexeme → Bool
  | [.word _] => true
  | _ => false

def leadingWord? : List Lexeme → Option String
  | .word register :: _ => some register
  | _ => none

theorem single_word_iff {operand : List Lexeme} :
    isSingleWord operand = true ↔ ∃ register, operand = [.word register] := by
  constructor
  · intro single
    match operand, single with
    | [.word register], _ => exact ⟨register, rfl⟩
  · rintro ⟨register, rfl⟩
    rfl

/-- An operand is read without complaint if it is a single word, and up to its leading word
otherwise. -/
theorem read_register_cases (group : Group) :
    (∃ register, group.lexemes = [.word register] ∧ readRegister group = ⟨some register, none⟩) ∨
      isSingleWord group.lexemes = false ∧
        ∃ issue, readRegister group = ⟨leadingWord? group.lexemes, some issue⟩ := by
  obtain ⟨tokens, span⟩ := group
  cases tokens with
  | nil => exact Or.inr ⟨rfl, _, rfl⟩
  | cons first rest =>
      obtain ⟨lexeme, firstSpan⟩ := first
      cases lexeme with
      | comma | leftParen | rightParen => exact Or.inr ⟨rfl, _, rfl⟩
      | word register =>
          cases rest with
          | nil => exact Or.inl ⟨register, rfl, rfl⟩
          | cons second others =>
              obtain ⟨next, nextSpan⟩ := second
              cases next <;> exact Or.inr ⟨rfl, _, rfl⟩

/-- The place of the first operand that is not a single word, behind the last one if all are. -/
def firstFault (operands : List (List Lexeme)) : Nat :=
  operands.findIdx fun operand => !isSingleWord operand

/-- The operands before this place, which are single words, and the leading word of the one there. -/
def wordsUpTo (place : Nat) (operands : List (List Lexeme)) : List String :=
  (operands.take place).filterMap leadingWord? ++ (operands[place]?.bind leadingWord?).toList

theorem first_fault_of_word (register : String) (rest : List (List Lexeme)) :
    firstFault ([.word register] :: rest) = firstFault rest + 1 := by
  rw [firstFault, List.findIdx_cons]
  rfl

theorem first_fault_here {operand : List Lexeme} (faulty : isSingleWord operand = false)
    (rest : List (List Lexeme)) : firstFault (operand :: rest) = 0 := by
  rw [firstFault, List.findIdx_cons, faulty]
  rfl

theorem words_up_to_here (operand : List Lexeme) (rest : List (List Lexeme)) :
    wordsUpTo 0 (operand :: rest) = (leadingWord? operand).toList := by
  rw [wordsUpTo, List.take_zero, List.filterMap_nil, List.nil_append]
  rfl

theorem first_fault_le_length (operands : List (List Lexeme)) :
    firstFault operands ≤ operands.length :=
  List.findIdx_le_length

theorem no_fault_iff {operands : List (List Lexeme)} :
    firstFault operands = operands.length ↔ ∃ words, operands = wordOperands words := by
  induction operands with
  | nil => exact ⟨fun _ => ⟨[], rfl⟩, fun _ => rfl⟩
  | cons operand rest ih =>
      cases single : isSingleWord operand with
      | false =>
          rw [first_fault_here single]
          constructor
          · intro impossible
            contradiction
          · rintro ⟨words, same⟩
            obtain ⟨word, others, rfl, rfl, rfl⟩ := List.map_eq_cons_iff.mp same.symm
            contradiction
      | true =>
          obtain ⟨register, rfl⟩ := single_word_iff.mp single
          rw [first_fault_of_word, List.length_cons, Nat.add_right_cancel_iff, ih]
          constructor
          · rintro ⟨words, rfl⟩
            exact ⟨register :: words, rfl⟩
          · rintro ⟨words, same⟩
            obtain ⟨word, others, rfl, _, same⟩ := List.map_eq_cons_iff.mp same.symm
            exact ⟨others, same.symm⟩

theorem read_sources_up_to_fault (groups : List Group) :
    (readSources groups).1 =
        wordsUpTo (firstFault (groups.map Group.lexemes)) (groups.map Group.lexemes) ∧
      ((readSources groups).2 = none ↔
        firstFault (groups.map Group.lexemes) = (groups.map Group.lexemes).length) := by
  induction groups with
  | nil => exact ⟨rfl, by simp [readSources, firstFault]⟩
  | cons group rest ih =>
      obtain ⟨registers, silent⟩ := ih
      rw [readSources, List.map_cons]
      rcases read_register_cases group with ⟨register, single, read⟩ | ⟨faulty, issue, read⟩
      · rw [single, first_fault_of_word, read]
        simp only
        constructor
        · rw [registers]
          rfl
        · rw [silent, List.length_cons, Nat.add_right_cancel_iff]
      · rw [first_fault_here faulty, read, words_up_to_here]
        cases leadingWord? group.lexemes <;> simp

def StartsWithWord (operands : List (List Lexeme)) : Prop :=
  ∃ register, operands.head? = some [.word register]

/-- The operands are single words, and there are at least two of them. -/
def AreWords (operands : List (List Lexeme)) : Prop :=
  ∃ destination sources, sources ≠ [] ∧ operands = wordOperands (destination :: sources)

theorem no_operand_no_word : ¬ StartsWithWord [] := by
  rintro ⟨register, impossible⟩
  contradiction

theorem are_words_iff {operands : List (List Lexeme)} :
    AreWords operands ↔
      StartsWithWord operands ∧ operands.tail ≠ [] ∧
        firstFault operands.tail = operands.tail.length := by
  constructor
  · rintro ⟨destination, sources, present, rfl⟩
    have filled : wordOperands sources ≠ [] := fun empty => present (List.map_eq_nil_iff.mp empty)
    exact ⟨⟨destination, rfl⟩, filled, no_fault_iff.mpr ⟨sources, rfl⟩⟩
  · rintro ⟨⟨destination, starts⟩, filled, faultless⟩
    cases operands with
    | nil => contradiction
    | cons first rest =>
        obtain ⟨sources, same⟩ := no_fault_iff.mp faultless
        rw [List.tail_cons] at same filled
        have present : sources ≠ [] := by
          rintro rfl
          exact filled same
        refine ⟨destination, sources, present, ?_⟩
        rw [Option.some.inj starts, same]
        rfl

/-- The ways in which operands are not at least two single words. -/
theorem not_words_iff (operands : List (List Lexeme)) :
    ¬ AreWords operands ↔
      operands = [] ∨ ¬ StartsWithWord operands ∨ operands.tail = [] ∨
        firstFault operands.tail < operands.tail.length := by
  have short : firstFault operands.tail < operands.tail.length ↔
      ¬ firstFault operands.tail = operands.tail.length := by
    have bound := first_fault_le_length operands.tail
    omega
  have missing : operands = [] → ¬ StartsWithWord operands := by
    rintro rfl
    exact no_operand_no_word
  rw [are_words_iff, short, not_and_or, not_and_or, not_ne_iff]
  exact (or_iff_right_of_imp fun none => Or.inl (missing none)).symm

namespace Extract

theorem with_destination_of_word {first : Group} {register : String}
    (single : first.lexemes = [.word register]) (stop : Nat)
    (readRest : List Group → List String × Option Issue) (rest : List Group) :
    withDestination stop readRest (first :: rest) =
      ⟨some register, (readRest rest).1, (readRest rest).2⟩ := by
  rw [withDestination, read_register_word single]

theorem with_destination_of_fault {first : Group} (faulty : isSingleWord first.lexemes = false)
    (stop : Nat) (readRest : List Group → List String × Option Issue) (rest : List Group) :
    ∃ issue, withDestination stop readRest (first :: rest) =
      ⟨leadingWord? first.lexemes, [], some issue⟩ := by
  rcases read_register_cases first with ⟨register, single, -⟩ | ⟨-, issue, read⟩
  · rw [single] at faulty
    contradiction
  · refine ⟨issue, ?_⟩
    rw [withDestination, read]
    cases leadingWord? first.lexemes <;> rfl

end Extract

structure ReadUpToFault (operands : List (List Lexeme)) (extract : Extract) : Prop where
  destination : extract.destination = operands.head?.bind leadingWord?
  sources : StartsWithWord operands →
    extract.sources = (wordsUpTo (firstFault operands.tail) operands.tail).eraseDups
  nothing : ¬ StartsWithWord operands → extract.sources = []
  silent : extract.issue = none ↔ AreWords operands

theorem not_starts_of_fault {operand : List Lexeme} (faulty : isSingleWord operand = false)
    (rest : List (List Lexeme)) : ¬ StartsWithWord (operand :: rest) := by
  rintro ⟨register, same⟩
  rw [Option.some.inj same] at faulty
  contradiction

/-- Without a word as the first operand nothing is read, and that is complained of. -/
theorem ReadUpToFault.of_no_word {operands : List (List Lexeme)} {extract : Extract}
    (noWord : ¬ StartsWithWord operands)
    (destination : extract.destination = operands.head?.bind leadingWord?)
    (nothing : extract.sources = []) (complains : extract.issue ≠ none) :
    ReadUpToFault operands extract := by
  apply ReadUpToFault.mk destination
  case sources =>
    intro starts
    exact absurd starts noWord
  case nothing =>
    intro _
    exact nothing
  case silent =>
    rw [are_words_iff]
    simp [complains, noWord]

theorem Extract.arithmetic_up_to_fault (stop : Nat) (groups : List Group) :
    ReadUpToFault (groups.map Group.lexemes) (arithmetic stop groups) := by
  cases groups with
  | nil => exact .of_no_word no_operand_no_word rfl rfl (Option.some_ne_none _)
  | cons first rest =>
      rw [List.map_cons]
      cases single : isSingleWord first.lexemes with
      | false =>
          obtain ⟨issue, read⟩ := with_destination_of_fault single stop _ rest
          rw [arithmetic, read]
          exact .of_no_word (not_starts_of_fault single _) rfl rfl (Option.some_ne_none _)
      | true =>
          obtain ⟨register, word⟩ := single_word_iff.mp single
          have starts : StartsWithWord ([.word register] :: rest.map Group.lexemes) :=
            ⟨register, rfl⟩
          rw [arithmetic, with_destination_of_word word, word]
          apply ReadUpToFault.mk rfl
          case nothing =>
            intro noWord
            exact absurd starts noWord
          case sources =>
            intro _
            cases rest with
            | nil => rfl
            | cons second others =>
                exact congrArg List.eraseDups (read_sources_up_to_fault (second :: others)).1
          case silent =>
            rw [are_words_iff]
            cases rest with
            | nil => simp
            | cons second others =>
                have silent := (read_sources_up_to_fault (second :: others)).2
                constructor
                · intro clean
                  exact ⟨starts, List.cons_ne_nil _ _, silent.mp clean⟩
                · rintro ⟨-, -, faultless⟩
                  exact silent.mpr faultless

theorem are_words_iff_written {text : List Char}
    (known : (Operands.ofText text).opClass ≠ .unclassified) :
    AreWords (operandsOf text) ↔ ∃ destination sources, sources ≠ [] ∧
      lexemesOf text = .word (Operands.ofText text).opcode ::
        commaSeparated (wordOperands (destination :: sources)) := by
  have lists (destination : String) (sources : List String) :
      operandsOf text = wordOperands (destination :: sources) ↔
        (lexemesOf text).tail = commaSeparated (wordOperands (destination :: sources)) := by
    have listed : wordOperands (destination :: sources) ≠ [] := List.cons_ne_nil _ _
    exact operand_lists_eq_iff listed (word_operands_solid _) _
  rw [Operands.lexemes_of_known known]
  simp only [AreWords, lists, List.cons.injEq, true_and]

namespace Operands

variable {text : List Char}

theorem known_of_computing (computes : (ofText text).opClass = .arithmetic ∨
    (ofText text).opClass = .fusedMultiplyAccumulate) : (ofText text).opClass ≠ .unclassified := by
  rcases computes with plain | fused
  · exact plain ▸ OpClass.noConfusion
  · exact fused ▸ OpClass.noConfusion

theorem computing_tells (computes : (ofText text).opClass = .arithmetic ∨
    (ofText text).opClass = .fusedMultiplyAccumulate) :
    (ofText text).Tells (ofText text).opcode
      (Extract.arithmetic 0 ((operandsOf text).map Group.ofLexemes)) := by
  have tells := of_text_reads text
  rcases computes with plain | fused
  · rw [plain] at tells
    exact tells
  · rw [fused] at tells
    exact tells

end Operands

/-- The first operand of a computing instruction is written, if it begins with a word. The others are
read only if it is nothing but a word; then up to the first of them that is not a single word, whose
leading word still counts, and each word once. Apart from bad characters there is something wrong
exactly when there is no operand, the first is not a single word, there is no other, or one of the
others is not a single word; so nothing is wrong with a text exactly when it has no bad character and
its opcode stands before at least two single words with commas between them. -/
theorem computing_operands_are_read_up_to_fault (text : List Char)
    (computes : (Operands.ofText text).opClass = .arithmetic ∨
      (Operands.ofText text).opClass = .fusedMultiplyAccumulate) :
    let operands := operandsOf text
    let read := Operands.ofText text
    read.destination = operands.head?.bind leadingWord? ∧
      (StartsWithWord operands →
        read.sources = (wordsUpTo (firstFault operands.tail) operands.tail).eraseDups) ∧
      (¬ StartsWithWord operands → read.sources = []) ∧
      (read.complaints ≠ [] ↔ operands = [] ∨ ¬ StartsWithWord operands ∨ operands.tail = [] ∨
        firstFault operands.tail < operands.tail.length) ∧
      (read.issues = [] ↔ (scan text).bad = [] ∧ ∃ destination sources, sources ≠ [] ∧
        lexemesOf text =
          .word read.opcode :: commaSeparated (wordOperands (destination :: sources))) := by
  intro operands read
  have tells := Operands.computing_tells computes
  have reads := Extract.arithmetic_up_to_fault 0 (operands.map Group.ofLexemes)
  rw [lexemes_of_lexemes] at reads
  have silent : read.complaints = [] ↔ AreWords operands := by
    rw [tells.complaints, List.map_eq_nil_iff, Option.toList_eq_nil_iff]
    exact reads.silent
  refine ⟨tells.destination.trans reads.destination, ?_, ?_, ?_, ?_⟩
  · intro starts
    exact tells.sources.trans (reads.sources starts)
  · intro noWord
    exact tells.sources.trans (reads.nothing noWord)
  · rw [Ne, silent]
    exact not_words_iff operands
  · have known := Operands.known_of_computing computes
    rw [Operands.issues_nil_iff known, silent, are_words_iff_written known]

/-- A parenthesis ends the reading of sources behind the word that it follows, and what comes after it
is not looked at; a word that was read before is not listed again. -/
theorem sources_end_at_a_parenthesis :
    let text := "add a0,x,x,y(z),w".toList
    (Operands.ofText text).opClass = .arithmetic ∧
      StartsWithWord (operandsOf text) ∧
      (Operands.ofText text).sources = ["x", "y"] ∧
      (Operands.ofText text).complaints ≠ [] := by
  intro text
  have plain : (Operands.ofText text).opClass = .arithmetic := by decide
  obtain ⟨-, sources, -, complaint, -⟩ :=
    computing_operands_are_read_up_to_fault text (Or.inl plain)
  have starts : StartsWithWord (operandsOf text) := ⟨"a0", by decide⟩
  have words : (wordsUpTo (firstFault (operandsOf text).tail) (operandsOf text).tail).eraseDups =
      ["x", "y"] := by decide
  have fault : firstFault (operandsOf text).tail < (operandsOf text).tail.length := by decide
  exact ⟨plain, starts, (sources starts).trans words,
    complaint.mpr (Or.inr (Or.inr (Or.inr fault)))⟩

end Retirement.Instruction
