import Retirement.Proofs.Instruction.Words

/-!
Where complaints about tokens point. Reading an operand should stop at the first token that no accepted
operand can have there: what stands before the token can still be completed, and the token ends that.
Registers keep to this, and so do addresses, unless an address begins its base with a second opening
parenthesis: then the token behind the two is complained of, though the second parenthesis was the
offence.
-/

namespace Retirement.Instruction

inductive OperandKind
  | register
  | address
  deriving DecidableEq, Repr

/-- The second operand of a load is an address, and every other operand is a register. -/
def OpClass.operandKind (opClass : OpClass) (place : Nat) : OperandKind :=
  if opClass = .indexedLoad ∧ place = 1 then .address else .register

namespace OperandKind

def read : OperandKind → Group → Reading
  | register => readRegister
  | address => readBase

/-- A register is a single word; an address is a word in the first parentheses that are opened, with
anything before them but nothing behind. -/
def Accepts : OperandKind → List Lexeme → Prop
  | register, operand => ∃ name, operand = [.word name]
  | address, operand => .comma ∉ operand ∧ ∃ base, Addresses operand base []

def Viable (kind : OperandKind) (before : List Lexeme) : Prop :=
  ∃ after, kind.Accepts (before ++ after)

theorem accepts_iff_read (kind : OperandKind) {group : Group} (solid : .comma ∉ group.lexemes) :
    kind.Accepts group.lexemes ↔ (kind.read group).issue = none := by
  cases kind with
  | register =>
      rcases read_register_cases group with ⟨name, single, read⟩ | ⟨faulty, issue, read⟩
      · simp [Accepts, OperandKind.read, single, read]
      · simp only [Accepts, OperandKind.read, read, ← single_word_iff, faulty]
        simp
  | address =>
      rw [Accepts, OperandKind.read, (read_base_iff group).2]
      exact and_iff_right solid

theorem register_viable_iff {before : List Lexeme} :
    register.Viable before ↔ ∃ name, before <+: [.word name] := by
  constructor
  · rintro ⟨after, name, whole⟩
    exact ⟨name, after, whole⟩
  · rintro ⟨name, after, whole⟩
    exact ⟨after, name, whole⟩

/-- An address can be continued as long as what it has behind its first opening parenthesis begins a
base register. -/
theorem address_viable_iff {before : List Lexeme} (solid : .comma ∉ before) :
    address.Viable before ↔
      ∃ base, before.dropWhile (· != .leftParen) <+: [.leftParen, .word base, .rightParen] := by
  have whole (after : List Lexeme) : (before ++ after).dropWhile (· != .leftParen) =
      if before.dropWhile (· != .leftParen) = [] then after.dropWhile (· != .leftParen)
      else before.dropWhile (· != .leftParen) ++ after := by
    rw [List.dropWhile_append]
    simp only [List.isEmpty_iff]
  simp only [Viable, Accepts, addresses_iff, whole]
  constructor
  · rintro ⟨after, -, base, rest⟩
    split_ifs at rest with unopened
    · exact ⟨base, by rw [unopened]; exact List.nil_prefix⟩
    · exact ⟨base, after, rest⟩
  · rintro ⟨base, after, rest⟩
    have afterSolid : .comma ∉ after := by
      intro member
      have inside : .comma ∈ [Lexeme.leftParen, .word base, .rightParen] := by
        rw [← rest]
        exact List.mem_append_right _ member
      simp at inside
    refine ⟨after, by simp [solid, afterSolid], base, ?_⟩
    split_ifs with unopened
    · rw [unopened, List.nil_append] at rest
      rw [rest]
      rfl
    · exact rest

structure FirstOffence (kind : OperandKind) (before : List Lexeme) (found : Lexeme) : Prop where
  viable : kind.Viable before
  offends : ¬ kind.Viable (before ++ [found])

/-- The first opening parenthesis of an address stands right before the last of these lexemes, which is
another one. -/
def DoublyOpened (kind : OperandKind) (before : List Lexeme) : Prop :=
  kind = .address ∧ ∃ front, .leftParen ∉ front ∧ before = front ++ [.leftParen, .leftParen]

theorem past_unopened {front : List Lexeme} (unopened : .leftParen ∉ front) (inside : List Lexeme) :
    (front ++ .leftParen :: inside).dropWhile (· != .leftParen) = .leftParen :: inside := by
  have passed : ∀ lexeme ∈ front, (lexeme != .leftParen) = true := by
    intro lexeme member
    rw [bne_iff_ne]
    rintro rfl
    exact unopened member
  rw [List.dropWhile_append_of_pos passed]
  rfl

/-- Behind the first opening parenthesis only a base register and its closing parenthesis can come. -/
theorem opened_viable_iff {front inside : List Lexeme} (unopened : .leftParen ∉ front)
    (solid : .comma ∉ front ++ .leftParen :: inside) :
    address.Viable (front ++ .leftParen :: inside) ↔
      ∃ base, inside <+: [.word base, .rightParen] := by
  rw [address_viable_iff solid, past_unopened unopened]
  simp only [List.cons_prefix_cons, true_and]

/-- In the parentheses of an address the first offence is the first lexeme that does not belong to a
base register and its closing parenthesis. -/
theorem opened_first_offence {front passed : List Lexeme} {found : Lexeme}
    (unopened : .leftParen ∉ front) (solid : .comma ∉ front ++ .leftParen :: (passed ++ [found]))
    (begins : ∃ base, passed <+: [.word base, .rightParen])
    (offends : ∀ base, ¬ passed ++ [found] <+: [.word base, .rightParen]) :
    address.FirstOffence (front ++ .leftParen :: passed) found := by
  have longer : front ++ .leftParen :: passed ++ [found] =
      front ++ .leftParen :: (passed ++ [found]) := by
    rw [List.append_assoc, List.cons_append]
  apply FirstOffence.mk
  case viable =>
    have passedSolid : .comma ∉ front ++ .leftParen :: passed := by
      intro member
      apply solid
      rw [← longer]
      exact List.mem_append_left _ member
    exact (opened_viable_iff unopened passedSolid).mpr begins
  case offends =>
    rw [longer, opened_viable_iff unopened solid, not_exists]
    exact offends

theorem doubly_opened_not_viable {kind : OperandKind} {before : List Lexeme}
    (solid : .comma ∉ before) (doubled : kind.DoublyOpened before) : ¬ kind.Viable before := by
  obtain ⟨rfl, front, unopened, rfl⟩ := doubled
  rw [opened_viable_iff unopened solid]
  simp

/-- Where a base begins with a second opening parenthesis, that one is the first offence. -/
theorem doubly_opened_offence {kind : OperandKind} {before : List Lexeme}
    (solid : .comma ∉ before) (doubled : kind.DoublyOpened before) :
    ∃ front, before = front ++ [.leftParen] ∧ kind.FirstOffence front .leftParen := by
  obtain ⟨rfl, front, unopened, rfl⟩ := doubled
  have split : front ++ [Lexeme.leftParen, .leftParen] =
      (front ++ [.leftParen]) ++ [.leftParen] := by
    rw [List.append_assoc, List.singleton_append]
  have second : address.FirstOffence (front ++ [.leftParen]) .leftParen :=
    opened_first_offence unopened solid ⟨"a0", List.nil_prefix⟩ (by simp)
  exact ⟨front ++ [.leftParen], split, second⟩

end OperandKind

def ProblemKind.PointsAtToken (kind : ProblemKind) : Prop :=
  kind = .unexpectedToken ∨ kind = .missingComma

structure Group.PointsAt (group : Group) (issue : Issue) (before : List Token) (reported : Token) :
    Prop where
  splits : ∃ after, group.tokens = before ++ reported :: after
  place : issue.span = reported.span

/-- The issue points at a token of the group, and that token is the first offence unless the group opens
two parentheses right before it. -/
def Group.ShowsOffence (kind : OperandKind) (group : Group) (issue : Issue) : Prop :=
  ∃ before reported, group.PointsAt issue before reported ∧
    (kind.DoublyOpened (before.map Token.lexeme) ∨
      kind.FirstOffence (before.map Token.lexeme) reported.lexeme)

theorem word_then_offence (name : String) (found : Lexeme) :
    OperandKind.register.FirstOffence [.word name] found where
  viable := OperandKind.register_viable_iff.mpr ⟨name, List.prefix_refl _⟩
  offends := by
    rw [OperandKind.register_viable_iff]
    simp

theorem no_word_offence {found : Lexeme} (noWord : ∀ name, found ≠ .word name) :
    OperandKind.register.FirstOffence [] found where
  viable := OperandKind.register_viable_iff.mpr ⟨"a0", List.nil_prefix⟩
  offends := by
    rw [OperandKind.register_viable_iff]
    simp [noWord]

theorem read_register_shows {group : Group} {issue : Issue}
    (complains : (readRegister group).issue = some issue)
    (pointed : issue.problem.kind.PointsAtToken) : group.ShowsOffence .register issue := by
  unfold readRegister at complains
  split at complains
  case h_1 =>
    cases complains
    simp [ProblemKind.PointsAtToken, Problem.kind] at pointed
  case h_2 => contradiction
  case h_3 name span next nextSpan rest two =>
    cases complains
    exact ⟨[⟨.word name, span⟩], ⟨.word next, nextSpan⟩, ⟨⟨rest, two⟩, rfl⟩,
      Or.inr (word_then_offence name _)⟩
  case h_4 name span found foundSpan rest _ two =>
    cases complains
    exact ⟨[⟨.word name, span⟩], ⟨found, foundSpan⟩, ⟨⟨rest, two⟩, rfl⟩,
      Or.inr (word_then_offence name _)⟩
  case h_5 found span rest single twoWords two mark =>
    cases complains
    have noWord : ∀ name, found ≠ .word name := by
      rintro name rfl
      cases rest with
      | nil => exact single name rfl rfl
      | cons second others => exact two name second.lexeme second.span others rfl rfl
    exact ⟨[], ⟨found, span⟩, ⟨⟨rest, mark⟩, rfl⟩, Or.inr (no_word_offence noWord)⟩

structure Group.Opens (group : Group) (front : List Token) (opening : Token) (inside : List Token) :
    Prop where
  splits : group.tokens = front ++ opening :: inside
  paren : opening.lexeme = .leftParen
  unopened : .leftParen ∉ front.map Token.lexeme

theorem Group.opens_of_past {group : Group} {opening : Token} {inside : List Token}
    (past : (group.tokens.dropWhile fun t => t.lexeme != .leftParen) = opening :: inside) :
    ∃ front, group.Opens front opening inside := by
  refine ⟨group.tokens.takeWhile fun t => t.lexeme != .leftParen, ?_, ?_, ?_⟩
  · rw [← past, List.takeWhile_append_dropWhile]
  · have stops := List.head?_dropWhile_not (fun t : Token => t.lexeme != .leftParen) group.tokens
    rw [past] at stops
    exact bne_eq_false_iff_eq.mp stops
  · intro member
    obtain ⟨t, passed, paren⟩ := List.mem_map.mp member
    have noParen := List.mem_takeWhile_imp passed
    rw [paren] at noParen
    contradiction

/-- The token reported is the first offence if what stands between the parenthesis and the token belongs
to a base register and its closing parenthesis, and the token does not. -/
theorem Group.Opens.shows {group : Group} {front inside after : List Token}
    {opening reported : Token} {issue : Issue} (opens : group.Opens front opening inside)
    (solid : .comma ∉ group.lexemes) (passed : List Token)
    (split : inside = passed ++ reported :: after) (place : issue.span = reported.span)
    (begins : ∃ base, passed.map Token.lexeme <+: [.word base, .rightParen])
    (offends : ∀ base,
      ¬ passed.map Token.lexeme ++ [reported.lexeme] <+: [.word base, .rightParen]) :
    group.ShowsOffence .address issue := by
  have whole : group.tokens = (front ++ opening :: passed) ++ reported :: after := by
    rw [opens.splits, split, List.append_assoc, List.cons_append]
  have before : (front ++ opening :: passed).map Token.lexeme =
      front.map Token.lexeme ++ .leftParen :: passed.map Token.lexeme := by
    rw [List.map_append, List.map_cons, opens.paren]
  have reportedSolid : .comma ∉
      front.map Token.lexeme ++ .leftParen :: (passed.map Token.lexeme ++ [reported.lexeme]) := by
    rw [Group.lexemes, whole, List.map_append, before] at solid
    simp only [List.map_cons, List.mem_append, List.mem_cons, List.not_mem_nil] at solid ⊢
    tauto
  refine ⟨front ++ opening :: passed, reported, ⟨⟨after, whole⟩, place⟩, Or.inr ?_⟩
  rw [before]
  exact OperandKind.opened_first_offence opens.unopened reportedSolid begins offends

/-- A base that begins with a second opening parenthesis is complained of at the token behind it. -/
theorem Group.Opens.shows_doubly {group : Group} {front rest : List Token}
    {opening second reported : Token} {issue : Issue}
    (opens : group.Opens front opening (second :: reported :: rest))
    (again : second.lexeme = .leftParen) (place : issue.span = reported.span) :
    group.ShowsOffence .address issue := by
  have whole : group.tokens = (front ++ [opening, second]) ++ reported :: rest := by
    rw [opens.splits, List.append_assoc]
    rfl
  refine ⟨front ++ [opening, second], reported, ⟨⟨rest, whole⟩, place⟩, Or.inl ⟨rfl, ?_⟩⟩
  refine ⟨front.map Token.lexeme, opens.unopened, ?_⟩
  rw [List.map_append, List.map_cons, List.map_singleton, opens.paren, again]

theorem read_base_shows {group : Group} {issue : Issue} (solid : .comma ∉ group.lexemes)
    (complains : (readBase group).issue = some issue)
    (pointed : issue.problem.kind.PointsAtToken) : group.ShowsOffence .address issue := by
  unfold readBase at complains
  split at complains
  case h_1 =>
    split at complains
    all_goals
      cases complains
      simp [ProblemKind.PointsAtToken, Problem.kind] at pointed
  case h_2 opening inside past =>
    obtain ⟨front, opens⟩ := Group.opens_of_past past
    split at complains
    case h_1 base baseSpan closeSpan rest =>
      cases rest with
      | nil => contradiction
      | cons extra rest =>
          cases complains
          apply opens.shows solid [⟨.word base, baseSpan⟩, ⟨.rightParen, closeSpan⟩] rfl rfl
          case begins => exact ⟨base, List.prefix_refl _⟩
          case offends => simp
    case h_2 | h_3 | h_4 =>
      cases complains
      simp [ProblemKind.PointsAtToken, Problem.kind] at pointed
    case h_5 first found span rest noBase noClose =>
      cases complains
      obtain ⟨lexeme, firstSpan⟩ := first
      cases lexeme with
      | comma =>
          have present : .comma ∈ group.lexemes := by
            rw [Group.lexemes, opens.splits]
            simp
          exact absurd present solid
      | leftParen => exact opens.shows_doubly rfl rfl
      | rightParen => exact absurd rfl (noClose firstSpan)
      | word base =>
          have noParen : found ≠ .rightParen := noBase base firstSpan rfl
          apply opens.shows solid [⟨.word base, firstSpan⟩] rfl rfl
          case begins => exact ⟨base, [.rightParen], rfl⟩
          case offends => simp [noParen]
    case h_6 found span noParen noWord =>
      cases complains
      have noBase : ∀ base, found ≠ .word base := noWord
      apply opens.shows solid [] rfl rfl
      case begins => exact ⟨"a0", List.nil_prefix⟩
      case offends => simp [noBase]

theorem OperandKind.read_shows {kind : OperandKind} {group : Group} {issue : Issue}
    (solid : .comma ∉ group.lexemes) (complains : (kind.read group).issue = some issue)
    (pointed : issue.problem.kind.PointsAtToken) : group.ShowsOffence kind issue := by
  cases kind with
  | register => exact read_register_shows complains pointed
  | address => exact read_base_shows solid complains pointed

/-- The issue is the complaint of one of these operands, each of them read as its kind from this place
on. -/
def ComesFrom (opClass : OpClass) (groups : List Group) (start : Nat) (issue : Issue) : Prop :=
  ∃ place group, groups[place]? = some group ∧
    ((opClass.operandKind (start + place)).read group).issue = some issue

theorem ComesFrom.behind {opClass : OpClass} {groups : List Group} {start : Nat} {issue : Issue}
    (later : ComesFrom opClass groups (start + 1) issue) (first : Group) :
    ComesFrom opClass (first :: groups) start issue := by
  obtain ⟨place, group, found, complains⟩ := later
  refine ⟨place + 1, group, found, ?_⟩
  rwa [Nat.add_assoc, Nat.add_comm 1 place] at complains

theorem ComesFrom.here {opClass : OpClass} {first : Group} {start : Nat} {issue : Issue}
    (complains : ((opClass.operandKind start).read first).issue = some issue) (rest : List Group) :
    ComesFrom opClass (first :: rest) start issue :=
  ⟨0, first, rfl, complains⟩

theorem register_kind {opClass : OpClass} {place : Nat}
    (plain : opClass ≠ .indexedLoad ∨ place ≠ 1) : opClass.operandKind place = .register := by
  rw [OpClass.operandKind, if_neg]
  rintro ⟨rfl, rfl⟩
  simp at plain

theorem read_sources_complain {opClass : OpClass} (noLoad : opClass ≠ .indexedLoad)
    {groups : List Group} {issue : Issue} (complains : (readSources groups).2 = some issue)
    (start : Nat) : ComesFrom opClass groups start issue := by
  induction groups generalizing start with
  | nil => contradiction
  | cons group rest ih =>
      rw [readSources] at complains
      split at complains
      case h_1 => exact (ih complains (start + 1)).behind group
      case h_2 register found read =>
        apply ComesFrom.here
        rw [register_kind (Or.inl noLoad), OperandKind.read, read]
        exact complains

namespace Extract

theorem first_complains {first : Group} {issue : Issue}
    (complains : (readRegister first).issue = some issue) (opClass : OpClass) (rest : List Group) :
    ComesFrom opClass (first :: rest) 0 issue := by
  apply ComesFrom.here
  rw [register_kind (Or.inr Nat.zero_ne_one)]
  exact complains

theorem with_destination_complains {opClass : OpClass} {stop : Nat}
    {readRest : List Group → List String × Option Issue} {groups : List Group} {issue : Issue}
    (complains : (withDestination stop readRest groups).issue = some issue)
    (further : ∀ rest, (readRest rest).2 = some issue →
      issue.problem.kind = .missingOperand ∨ ComesFrom opClass rest 1 issue) :
    issue.problem.kind = .missingOperand ∨ ComesFrom opClass groups 0 issue := by
  cases groups with
  | nil =>
      cases complains
      exact Or.inl rfl
  | cons first rest =>
      rw [withDestination] at complains
      split at complains
      case h_1 => exact (further rest complains).imp_right fun later => later.behind first
      case h_2 register found read =>
        have written : (readRegister first).issue = some issue := by
          rw [read]
          exact complains
        exact Or.inr (first_complains written opClass rest)

theorem arithmetic_complains {opClass : OpClass} (noLoad : opClass ≠ .indexedLoad) {stop : Nat}
    {groups : List Group} {issue : Issue}
    (complains : (arithmetic stop groups).issue = some issue) :
    issue.problem.kind = .missingOperand ∨ ComesFrom opClass groups 0 issue := by
  apply with_destination_complains complains
  intro rest read
  cases rest with
  | nil =>
      cases read
      exact Or.inl rfl
  | cons second others =>
      have sources : (readSources (second :: others)).2 = some issue := read
      exact Or.inr (read_sources_complain noLoad sources 1)

theorem load_complains {stop : Nat} {groups : List Group} {issue : Issue}
    (complains : (indexedLoad stop groups).issue = some issue) :
    issue.problem.kind = .missingOperand ∨ ComesFrom .indexedLoad groups 0 issue := by
  apply with_destination_complains complains
  intro rest read
  cases rest with
  | nil =>
      cases read
      exact Or.inl rfl
  | cons address others =>
      have base : (readBase address).issue = some issue := read
      apply Or.inr
      apply ComesFrom.here
      exact base

theorem branch_complains {stop : Nat} {groups : List Group} {issue : Issue}
    (complains : (conditionalBranch stop groups).issue = some issue) :
    issue.problem.kind = .missingOperand ∨ ComesFrom .conditionalBranch groups 0 issue := by
  cases groups with
  | nil =>
      cases complains
      exact Or.inl rfl
  | cons first rest => exact Or.inr (first_complains complains .conditionalBranch rest)

/-- A complaint is that an operand is missing, or comes from an operand that is there. -/
theorem of_class_complains {stop : Nat} {opClass : OpClass} {groups : List Group} {issue : Issue}
    (complains : (ofClass stop opClass groups).issue = some issue) :
    issue.problem.kind = .missingOperand ∨ ComesFrom opClass groups 0 issue := by
  cases opClass with
  | arithmetic | fusedMultiplyAccumulate => exact arithmetic_complains OpClass.noConfusion complains
  | indexedLoad => exact load_complains complains
  | conditionalBranch => exact branch_complains complains
  | unclassified => contradiction

end Extract

namespace Operands

/-- What points at a token comes from an operand of the text. -/
theorem pointed_comes_from {text : List Char} {issue : Issue}
    (member : issue ∈ (ofText text).issues) (pointed : issue.problem.kind.PointsAtToken) :
    ComesFrom (ofText text).opClass (operandGroups text) 0 issue := by
  have issues : (ofText text).issues = (if (ofText text).opClass = .unclassified then []
      else (scan text).bad.map BadCharacter.issue) ++ (Extract.ofText text).issue.toList := rfl
  rw [issues, List.mem_append] at member
  rcases member with bad | complaint
  · split_ifs at bad
    · contradiction
    · obtain ⟨b, _, rfl⟩ := List.mem_map.mp bad
      simp [ProblemKind.PointsAtToken, BadCharacter.issue, Problem.kind] at pointed
  · rw [Option.mem_toList, ← of_text_extract] at complaint
    rcases Extract.of_class_complains complaint with missing | comes
    · rw [missing] at pointed
      simp [ProblemKind.PointsAtToken] at pointed
    · exact comes

theorem operand_solid {text : List Char} {group : Group} (member : group ∈ operandGroups text) :
    .comma ∉ group.lexemes := by
  intro comma
  obtain ⟨t, inside, lexeme⟩ := List.mem_map.mp comma
  exact (groups_tokens member t inside).2 lexeme

end Operands

/-- An issue that points at a token shows the first offence in its operand: the tokens before it can be
continued to an operand that is accepted there, and with the reported token they cannot. The one
exception is an address whose first opening parenthesis is followed by another: then the token behind
the two is reported, and the second parenthesis is the first offence. -/
theorem issues_point_at_first_offence (text : List Char) {issue : Issue}
    (member : issue ∈ (Operands.ofText text).issues)
    (pointed : issue.problem.kind = .unexpectedToken ∨ issue.problem.kind = .missingComma) :
    ∃ place group before reported after,
      (operandGroups text)[place]? = some group ∧
        group.tokens = before ++ reported :: after ∧ issue.span = reported.span ∧
        let kind := (Operands.ofText text).opClass.operandKind place
        let front := before.map Token.lexeme
        (∀ other : Group, .comma ∉ other.lexemes →
            (kind.Accepts other.lexemes ↔ (kind.read other).issue = none)) ∧
          (kind.FirstOffence front reported.lexeme ↔ ¬ kind.DoublyOpened front) ∧
          (kind.DoublyOpened front →
            ∃ opened, front = opened ++ [.leftParen] ∧ kind.FirstOffence opened .leftParen) := by
  obtain ⟨place, group, found, complains⟩ := Operands.pointed_comes_from member pointed
  rw [Nat.zero_add] at complains
  have solid := Operands.operand_solid (List.mem_of_getElem? found)
  obtain ⟨before, reported, ⟨⟨after, split⟩, span⟩, shown⟩ :=
    OperandKind.read_shows solid complains pointed
  have frontSolid : .comma ∉ before.map Token.lexeme := by
    rw [Group.lexemes, split, List.map_append, List.mem_append, not_or] at solid
    exact solid.1
  refine ⟨place, group, before, reported, after, found, split, span, ?_⟩
  intro kind front
  refine ⟨fun other => OperandKind.accepts_iff_read kind, ?_, ?_⟩
  · constructor
    · intro offence doubled
      exact OperandKind.doubly_opened_not_viable frontSolid doubled offence.viable
    · exact shown.resolve_left
  · exact OperandKind.doubly_opened_offence frontSolid

/-- The word that lacks a comma before it is the first offence. -/
theorem missing_comma_is_first_offence :
    let text := "add a0,a1 a2".toList
    let issue : Issue := ⟨.missingComma "a1" "a2", ⟨10, 12⟩⟩
    issue ∈ (Operands.ofText text).issues ∧ issue.problem.kind = .missingComma ∧
      ∃ group before reported after, group ∈ operandGroups text ∧
        group.tokens = before ++ reported :: after ∧ reported.span = ⟨10, 12⟩ ∧
        OperandKind.register.FirstOffence (before.map Token.lexeme) reported.lexeme := by
  intro text issue
  have member : issue ∈ (Operands.ofText text).issues := by decide
  have plain : (Operands.ofText text).opClass ≠ .indexedLoad := by decide
  obtain ⟨place, group, before, reported, after, found, split, span, -, offence, -⟩ :=
    issues_point_at_first_offence text member (Or.inr rfl)
  rw [register_kind (Or.inl plain)] at offence
  have single : ¬ OperandKind.register.DoublyOpened (before.map Token.lexeme) := by
    rintro ⟨impossible, -⟩
    contradiction
  exact ⟨member, rfl, group, before, reported, after, List.mem_of_getElem? found, split, span.symm,
    offence.mpr single⟩

/-- The word behind two opening parentheses is reported, though no address can begin with the two: the
offence is the second of them. -/
theorem doubled_paren_is_reported_late :
    let text := "flw a0,((a1))".toList
    let address : List Token := [⟨.leftParen, ⟨7, 8⟩⟩, ⟨.leftParen, ⟨8, 9⟩⟩, ⟨.word "a1", ⟨9, 11⟩⟩,
      ⟨.rightParen, ⟨11, 12⟩⟩, ⟨.rightParen, ⟨12, 13⟩⟩]
    (Operands.ofText text).issues = [⟨.insideBase (.word "a1"), ⟨9, 11⟩⟩] ∧
      (operandGroups text)[1]?.map Group.tokens = some address ∧
      (Operands.ofText text).opClass.operandKind 1 = .address ∧
      ¬ OperandKind.address.Viable [.leftParen, .leftParen] ∧
      OperandKind.address.FirstOffence [.leftParen] .leftParen := by
  intro text address
  have doubled : OperandKind.address.DoublyOpened [.leftParen, .leftParen] :=
    ⟨rfl, [], by decide, rfl⟩
  have broken := OperandKind.doubly_opened_not_viable (by decide) doubled
  have viable : OperandKind.address.Viable [.leftParen] :=
    (OperandKind.address_viable_iff (by decide)).mpr ⟨"a0", [.word "a0", .rightParen], rfl⟩
  exact ⟨by decide, by decide, by decide, broken, viable, broken⟩

end Retirement.Instruction
