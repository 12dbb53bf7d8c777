import Retirement.Proofs.Instruction.Grouping
import Retirement.Proofs.Instruction.Slices

/-!
Where the issues of an instruction are. Each way of reading operands looks at groups of scanned
tokens only, stops at its first complaint, and complains of a place inside the text: at a token, in a
group, from one parenthesis to the other or at the end. Bad characters are complained of beside this,
in the order of the scan.
-/

namespace Retirement.Instruction

open Text (byteLength)

def IsWordOf (text : List Char) (word : String) : Prop :=
  ∃ t ∈ (scan text).tokens, t.lexeme = .word word

/-- The words of the text that a problem shows. -/
def Problem.quoted : Problem → List String
  | missingComma register next => [register, next]
  | afterRegister _ register => [register]
  | _ => []

structure Issue.Structural (text : List Char) (issue : Issue) : Prop where
  kind : issue.problem.kind ≠ .badCharacter
  within : issue.span.Within text
  quotes : ∀ word ∈ issue.problem.quoted, IsWordOf text word

structure Grounded (text : List Char) (registers : List String) (issue : Option Issue) : Prop where
  registers : ∀ register ∈ registers, IsWordOf text register
  issue : ∀ complaint ∈ issue, complaint.Structural text

structure Group.Inside (text : List Char) (group : Group) : Prop where
  within : group.span.Within text
  tokens : ∀ t ∈ group.tokens, t ∈ (scan text).tokens

theorem Group.Inside.push {text : List Char} {group : Group} (inside : group.Inside text)
    {t : Token} (scanned : t ∈ (scan text).tokens) : (group.push t).Inside text where
  within := inside.within
  tokens := List.forall_mem_cons.mpr ⟨scanned, inside.tokens⟩

/-- Groups fill what lies between commas that come one after another. -/
theorem groups_from_inside {text : List Char} {start : Nat} {tokens : List Token}
    (border : Text.IsBorder text start) (scanned : ∀ t ∈ tokens, t ∈ (scan text).tokens)
    (ahead : ∀ t ∈ tokens, start ≤ t.span.start) (apart : Apart tokens) :
    ∀ group ∈ groupsFrom (byteLength text) start tokens, group.Inside text := by
  induction tokens generalizing start with
  | nil =>
      intro group member
      rw [List.mem_singleton.mp member]
      have last : Span.Within text ⟨start, byteLength text⟩ :=
        ⟨border.le_byte_length, le_refl _, border, (Span.end_within text).stops⟩
      exact ⟨last, by simp⟩
  | cons t rest ih =>
      obtain ⟨here, others⟩ := List.forall_mem_cons.mp scanned
      obtain ⟨first, further⟩ := List.forall_mem_cons.mp ahead
      obtain ⟨passes, restApart⟩ := List.pairwise_cons.mp apart
      have place := token_within here
      rw [groupsFrom]
      split_ifs
      · have between : Span.Within text ⟨start, t.span.start⟩ :=
          ⟨first, place.ordered.trans place.inside, border, place.starts⟩
        have emptyGroup : Group.Inside text ⟨[], ⟨start, t.span.start⟩⟩ := ⟨between, by simp⟩
        exact List.forall_mem_cons.mpr ⟨emptyGroup, ih place.stops others passes restApart⟩
      · apply all_of_modify_head
        · intro group inside
          exact inside.push here
        · exact ih border others further restApart

theorem groups_inside {text : List Char} {start : Nat} {tokens : List Token}
    (border : Text.IsBorder text start) (scanned : ∀ t ∈ tokens, t ∈ (scan text).tokens)
    (ahead : ∀ t ∈ tokens, start ≤ t.span.start) (apart : Apart tokens) :
    ∀ group ∈ groups start (byteLength text) tokens, group.Inside text := by
  unfold groups
  split_ifs
  · simp
  · exact groups_from_inside border scanned ahead apart

namespace Grounded

variable {text : List Char}

theorem silent {registers : List String} (words : ∀ register ∈ registers, IsWordOf text register) :
    Grounded text registers none :=
  ⟨words, by simp⟩

/-- A complaint that shows no word. -/
theorem complains {problem : Problem} {span : Span} (kind : problem.kind ≠ .badCharacter)
    (plain : problem.quoted = []) (within : span.Within text) :
    Grounded text [] (some ⟨problem, span⟩) := by
  refine ⟨by simp, ?_⟩
  intro complaint same
  rw [← Option.some.inj same]
  exact ⟨kind, within, by simp [plain]⟩

theorem of_register {register : String} (word : IsWordOf text register) {problem : Problem}
    {span : Span} (kind : problem.kind ≠ .badCharacter) (within : span.Within text)
    (quotes : ∀ word ∈ problem.quoted, IsWordOf text word) :
    Grounded text [register] (some ⟨problem, span⟩) := by
  refine ⟨by simpa using word, ?_⟩
  intro complaint same
  rw [← Option.some.inj same]
  exact ⟨kind, within, quotes⟩

end Grounded

theorem read_register_grounded {text : List Char} {group : Group} (inside : group.Inside text) :
    Grounded text (readRegister group).register.toList (readRegister group).issue := by
  have scanned := inside.tokens
  unfold readRegister
  split
  case h_1 empty => exact .complains ProblemKind.noConfusion rfl inside.within
  case h_2 register span single =>
    rw [single, List.forall_mem_cons] at scanned
    have word : IsWordOf text register := ⟨_, scanned.1, rfl⟩
    exact .silent (by simpa using word)
  case h_3 register _ next span rest two =>
    rw [two, List.forall_mem_cons, List.forall_mem_cons] at scanned
    have word : IsWordOf text register := ⟨_, scanned.1, rfl⟩
    have nextWord : IsWordOf text next := ⟨_, scanned.2.1, rfl⟩
    apply Grounded.of_register word _ (token_within scanned.2.1)
    · simpa [Problem.quoted] using ⟨word, nextWord⟩
    · exact ProblemKind.noConfusion
  case h_4 register _ found span rest noWord two =>
    rw [two, List.forall_mem_cons, List.forall_mem_cons] at scanned
    have word : IsWordOf text register := ⟨_, scanned.1, rfl⟩
    apply Grounded.of_register word _ (token_within scanned.2.1)
    · simpa [Problem.quoted] using word
    · exact ProblemKind.noConfusion
  case h_5 found span rest noWord noWords noMarks mark =>
    rw [mark, List.forall_mem_cons] at scanned
    exact .complains ProblemKind.noConfusion rfl (token_within scanned.1)

theorem read_base_grounded {text : List Char} {group : Group} (inside : group.Inside text) :
    Grounded text (readBase group).register.toList (readBase group).issue := by
  have scanned : ∀ t ∈ group.tokens.dropWhile fun token => token.lexeme != .leftParen,
      t ∈ (scan text).tokens := by
    intro t member
    exact inside.tokens t ((List.dropWhile_suffix _).mem member)
  unfold readBase
  split
  · split
    case h_1 close found =>
      have here := inside.tokens close (List.mem_of_find?_eq_some found)
      exact .complains ProblemKind.noConfusion rfl (token_within here)
    case h_2 => exact .complains ProblemKind.noConfusion rfl inside.within
  case h_2 opening rest begins =>
    rw [begins, List.forall_mem_cons] at scanned
    obtain ⟨openingScanned, scanned⟩ := scanned
    split
    case h_1 base _ _ rest =>
      rw [List.forall_mem_cons, List.forall_mem_cons] at scanned
      have word : IsWordOf text base := ⟨_, scanned.1, rfl⟩
      cases rest with
      | nil => exact .silent (by simpa using word)
      | cons extra rest =>
          have extraScanned := (List.forall_mem_cons.mp scanned.2.2).1
          apply Grounded.of_register word _ (token_within extraScanned)
          · simp [Problem.quoted]
          · exact ProblemKind.noConfusion
    case h_2 close rest =>
      have closing := token_within (List.forall_mem_cons.mp scanned).1
      exact .complains ProblemKind.noConfusion rfl
        (Span.join_within (token_within openingScanned) closing)
    case h_3 => exact .complains ProblemKind.noConfusion rfl (token_within openingScanned)
    case h_4 => exact .complains ProblemKind.noConfusion rfl (token_within openingScanned)
    case h_5 found span rest _ _ _ =>
      rw [List.forall_mem_cons, List.forall_mem_cons] at scanned
      exact .complains ProblemKind.noConfusion rfl (token_within scanned.2.1)
    case h_6 found span _ _ =>
      rw [List.forall_mem_cons] at scanned
      exact .complains ProblemKind.noConfusion rfl (token_within scanned.1)

theorem read_sources_grounded {text : List Char} {groups : List Group}
    (inside : ∀ group ∈ groups, group.Inside text) :
    Grounded text (readSources groups).1 (readSources groups).2 := by
  induction groups with
  | nil => exact .silent (by simp [readSources])
  | cons group rest ih =>
      obtain ⟨here, others⟩ := List.forall_mem_cons.mp inside
      have first := read_register_grounded here
      rw [readSources]
      split
      case h_1 register clean =>
        rw [clean] at first
        have later := ih others
        refine ⟨List.forall_mem_cons.mpr ⟨?_, later.registers⟩, later.issue⟩
        exact first.registers register (Option.mem_toList.mpr rfl)
      case h_2 register issue reading =>
        rw [reading] at first
        exact first

namespace Extract

def Grounded (text : List Char) (extract : Extract) : Prop :=
  Instruction.Grounded text (extract.destination.toList ++ extract.sources) extract.issue

theorem missing_grounded (text : List Char) {problem : Problem}
    (kind : problem.kind ≠ .badCharacter) (plain : problem.quoted = []) :
    (missing problem (byteLength text)).Grounded text :=
  .complains kind plain (Span.end_within text)

variable {text : List Char} {operands : List Group}

theorem with_destination_grounded {readRest : List Group → List String × Option Issue}
    (grounded : ∀ rest : List Group, (∀ group ∈ rest, group.Inside text) →
      Instruction.Grounded text (readRest rest).1 (readRest rest).2)
    (inside : ∀ group ∈ operands, group.Inside text) :
    (withDestination (byteLength text) readRest operands).Grounded text := by
  cases operands with
  | nil => exact missing_grounded text ProblemKind.noConfusion rfl
  | cons first rest =>
      obtain ⟨here, others⟩ := List.forall_mem_cons.mp inside
      have destination := read_register_grounded here
      rw [withDestination]
      split
      case h_1 register clean =>
        rw [clean] at destination
        have later := grounded rest others
        refine ⟨List.forall_mem_cons.mpr ⟨?_, later.registers⟩, later.issue⟩
        exact destination.registers register (Option.mem_toList.mpr rfl)
      case h_2 register issue reading =>
        rw [reading] at destination
        rw [Grounded, List.append_nil]
        exact destination

theorem arithmetic_grounded (inside : ∀ group ∈ operands, group.Inside text) :
    (arithmetic (byteLength text) operands).Grounded text := by
  apply with_destination_grounded _ inside
  intro rest insideRest
  cases rest with
  | nil => exact .complains ProblemKind.noConfusion rfl (Span.end_within text)
  | cons first rest =>
      have read := read_sources_grounded insideRest
      refine ⟨?_, read.issue⟩
      intro register member
      exact read.registers register (List.mem_eraseDups.mp member)

theorem load_grounded (inside : ∀ group ∈ operands, group.Inside text) :
    (indexedLoad (byteLength text) operands).Grounded text := by
  apply with_destination_grounded _ inside
  intro rest insideRest
  cases rest with
  | nil => exact .complains ProblemKind.noConfusion rfl (Span.end_within text)
  | cons address rest => exact read_base_grounded (insideRest address List.mem_cons_self)

theorem branch_grounded (inside : ∀ group ∈ operands, group.Inside text) :
    (conditionalBranch (byteLength text) operands).Grounded text := by
  cases operands with
  | nil => exact missing_grounded text ProblemKind.noConfusion rfl
  | cons first rest => exact read_register_grounded (inside first List.mem_cons_self)

theorem of_class_grounded (opClass : OpClass) (inside : ∀ group ∈ operands, group.Inside text) :
    (ofClass (byteLength text) opClass operands).Grounded text := by
  cases opClass with
  | arithmetic => exact arithmetic_grounded inside
  | indexedLoad => exact load_grounded inside
  | fusedMultiplyAccumulate => exact arithmetic_grounded inside
  | conditionalBranch => exact branch_grounded inside
  | unclassified => exact .silent (by simp [ofClass, nothing])

end Extract

/-- The tokens behind the opcode are in order, from a border on. -/
theorem split_opcode_leaves {text : List Char} {tokens : List Token}
    (scanned : ∀ t ∈ tokens, t ∈ (scan text).tokens) (apart : Apart tokens) :
    let split := splitOpcode tokens
    (split.1 = "" ∨ IsWordOf text split.1) ∧ Text.IsBorder text split.2.1 ∧
      (∀ t ∈ split.2.2, t ∈ (scan text).tokens) ∧
      (∀ t ∈ split.2.2, split.2.1 ≤ t.span.start) ∧ Apart split.2.2 := by
  unfold splitOpcode
  split
  case h_1 opcode span rest =>
    obtain ⟨here, others⟩ := List.forall_mem_cons.mp scanned
    obtain ⟨passes, restApart⟩ := List.pairwise_cons.mp apart
    exact ⟨Or.inr ⟨_, here, rfl⟩, (token_within here).stops, others, passes, restApart⟩
  case h_2 =>
    have border : Text.IsBorder text 0 := ⟨[], text, rfl, rfl⟩
    exact ⟨Or.inl rfl, border, scanned, fun t _ => Nat.zero_le t.span.start, apart⟩

def Issue.report (issue : Issue) : ProblemKind × Span × String :=
  (issue.problem.kind, issue.span, issue.problem.message)

def BadCharacter.report (bad : BadCharacter) : ProblemKind × Span × String :=
  (.badCharacter, bad.span, bad.message)

namespace Operands

/-- The words that reading takes out of a text, for registers and in complaints; the opcode may be
missing and is then empty. -/
def taken (operands : Operands) : List String :=
  operands.opcode :: (operands.destination.toList ++ operands.sources) ++
    operands.issues.flatMap fun issue => issue.problem.quoted

/-- The issues of a text: first those of its bad characters, then at most one about its operands. -/
structure Reported (text : List Char) (operands : Operands) (structural : Option Issue) : Prop where
  registers : Grounded text (operands.destination.toList ++ operands.sources) structural
  issues : operands.issues =
    (if operands.opClass = .unclassified then [] else (scan text).bad.map BadCharacter.issue) ++
      structural.toList
  silent : operands.opClass = .unclassified → structural = none

theorem of_text_reported (text : List Char) :
    ∃ structural, (ofText text).Reported text structural := by
  obtain ⟨_, border, scanned, ahead, apart⟩ :=
    split_opcode_leaves (fun _ => id) (scanned_tokens_apart text)
  have inside := groups_inside border scanned ahead apart
  refine ⟨_, Extract.of_class_grounded (ofText text).opClass inside, rfl, ?_⟩
  intro unknown
  rw [unknown]
  rfl

theorem of_text_opcode (text : List Char) :
    (ofText text).opcode = "" ∨ IsWordOf text (ofText text).opcode :=
  (split_opcode_leaves (fun _ => id) (scanned_tokens_apart text)).1

theorem Reported.issue_cases {text : List Char} {operands : Operands} {structural : Option Issue}
    (reported : operands.Reported text structural) {issue : Issue} (member : issue ∈ operands.issues) :
    (∃ b ∈ (scan text).bad, b.issue = issue) ∨ issue.Structural text := by
  rw [reported.issues, List.mem_append] at member
  rcases member with bad | complaint
  · split_ifs at bad
    · simp at bad
    · exact Or.inl (List.mem_map.mp bad)
  · exact Or.inr (reported.registers.issue issue (Option.mem_toList.mp complaint))

theorem issue_within {text : List Char} {issue : Issue} (member : issue ∈ (ofText text).issues) :
    issue.span.Within text := by
  obtain ⟨structural, reported⟩ := of_text_reported text
  rcases reported.issue_cases member with bad | complaint
  · obtain ⟨b, scanned, rfl⟩ := bad
    exact bad_within scanned
  · exact complaint.within

theorem taken_is_word {text : List Char} {word : String} (member : word ∈ (ofText text).taken) :
    word = "" ∨ IsWordOf text word := by
  obtain ⟨structural, reported⟩ := of_text_reported text
  rw [taken, List.mem_append, List.mem_cons] at member
  rcases member with (rfl | register) | shown
  · exact of_text_opcode text
  · exact Or.inr (reported.registers.registers word register)
  · obtain ⟨issue, found, quoted⟩ := List.mem_flatMap.mp shown
    rcases reported.issue_cases found with bad | complaint
    · obtain ⟨b, _, rfl⟩ := bad
      simp [BadCharacter.issue, Problem.quoted] at quoted
    · exact Or.inr (complaint.quotes word quoted)

end Operands

end Retirement.Instruction
