import Retirement.Proofs.Instruction.Words

/-!
Operands joined by commas. Writing the commas back between the groups of a token list gives the list
back, and the spans of groups and commas in turn fill the bytes that the list stands in, so that a
group without tokens has its place too. Where tokens stand one after another, their groups are like
that, and no others are.
-/

namespace Retirement

namespace Span

/-- Each span begins where the one before it ends, and together they reach from `start` to `stop`. -/
def Fill : Nat → Nat → List Span → Prop
  | start, stop, [] => start = stop
  | start, stop, span :: spans =>
      span.start = start ∧ span.start ≤ span.stop ∧ Fill span.stop stop spans

def Contains (span : Span) (byte : Nat) : Prop := span.start ≤ byte ∧ byte < span.stop

instance (span : Span) (byte : Nat) : Decidable (span.Contains byte) :=
  inferInstanceAs (Decidable (_ ∧ _))

theorem Fill.start_le_stop {start stop : Nat} {spans : List Span} (fill : Fill start stop spans) :
    start ≤ stop := by
  induction spans generalizing start with
  | nil => exact Nat.le_of_eq fill
  | cons span spans ih =>
      obtain ⟨begins, forward, further⟩ := fill
      rw [← begins]
      exact forward.trans (ih further)

/-- There is neither a gap nor an overlap: each byte of the range is in one span, and no other byte
is in any. -/
theorem Fill.count_containing {start stop : Nat} {spans : List Span}
    (fill : Fill start stop spans) (byte : Nat) :
    spans.countP (fun span => span.Contains byte) =
      if start ≤ byte ∧ byte < stop then 1 else 0 := by
  induction spans generalizing start with
  | nil =>
      have same : start = stop := fill
      rw [List.countP_nil, if_neg (by omega)]
  | cons span spans ih =>
      obtain ⟨begins, forward, further⟩ := fill
      have ends := further.start_le_stop
      have here : span.Contains byte ↔ start ≤ byte ∧ byte < span.stop := by
        rw [Contains, begins]
      rw [List.countP_cons, ih further]
      simp only [decide_eq_true_eq, here]
      split_ifs <;> omega

end Span

namespace Instruction

open Text (byteLength)

/-- One item of the first list, one of the second and so on, until one of them is used up. -/
def inTurn {Item : Type} : List Item → List Item → List Item
  | item :: items, other :: others => item :: other :: inTurn items others
  | items, [] => items
  | [], others => others

def commasOf (tokens : List Token) : List Token := tokens.filter fun t => t.lexeme = .comma

def joinedTokens (operands : List Group) (commas : List Token) : List Token :=
  (inTurn (operands.map Group.tokens) (commas.map fun comma => [comma])).flatten

def joinedSpans (operands : List Group) (commas : List Token) : List Span :=
  inTurn (operands.map Group.span) (commas.map Token.span)

structure Lined (start stop : Nat) (tokens : List Token) : Prop where
  between : ∀ t ∈ tokens,
    start ≤ t.span.start ∧ t.span.start ≤ t.span.stop ∧ t.span.stop ≤ stop
  apart : Apart tokens

/-- Joined by their commas, the operands are these tokens and fill the bytes from `start` to
`stop`. -/
structure Joined (start stop : Nat) (tokens : List Token) (operands : List Group) : Prop where
  count : operands.length = (commasOf tokens).length + 1
  solid : ∀ group ∈ operands, ∀ t ∈ group.tokens, t.lexeme ≠ .comma
  joins : joinedTokens operands (commasOf tokens) = tokens
  fill : Span.Fill start stop (joinedSpans operands (commasOf tokens))
  inside : ∀ group ∈ operands, ∀ t ∈ group.tokens,
    group.span.start ≤ t.span.start ∧ t.span.stop ≤ group.span.stop

namespace Lined

variable {start stop : Nat} {t : Token} {rest : List Token}

theorem tail (lined : Lined start stop (t :: rest)) : Lined start stop rest :=
  ⟨(List.forall_mem_cons.mp lined.between).2, (List.pairwise_cons.mp lined.apart).2⟩

theorem behind (lined : Lined start stop (t :: rest)) :
    ∀ later ∈ rest, t.span.stop ≤ later.span.start :=
  (List.pairwise_cons.mp lined.apart).1

theorem tail_behind (lined : Lined start stop (t :: rest)) : Lined t.span.stop stop rest := by
  refine ⟨?_, lined.tail.apart⟩
  intro later member
  exact ⟨lined.behind later member, (lined.tail.between later member).2⟩

end Lined

theorem mem_commas {t : Token} {tokens : List Token} :
    t ∈ commasOf tokens ↔ t ∈ tokens ∧ t.lexeme = .comma := by
  rw [commasOf, List.mem_filter, decide_eq_true_iff]

theorem commas_of_comma {t : Token} (comma : t.lexeme = .comma) (rest : List Token) :
    commasOf (t :: rest) = t :: commasOf rest :=
  List.filter_cons_of_pos (decide_eq_true comma)

theorem commas_of_other {t : Token} (other : t.lexeme ≠ .comma) (rest : List Token) :
    commasOf (t :: rest) = commasOf rest :=
  List.filter_cons_of_neg (by simpa using other)

theorem joined_tokens_push (t : Token) (group : Group) (others : List Group)
    (commas : List Token) :
    joinedTokens (group.push t :: others) commas = t :: joinedTokens (group :: others) commas := by
  cases commas <;> rfl

theorem joined_spans_push (t : Token) (group : Group) (others : List Group)
    (commas : List Token) :
    joinedSpans (group.push t :: others) commas = joinedSpans (group :: others) commas := by
  cases commas <;> rfl

theorem joined_tokens_comma (group : Group) (others : List Group) (t : Token)
    (commas : List Token) :
    joinedTokens (group :: others) (t :: commas) =
      group.tokens ++ t :: joinedTokens others commas := rfl

/-- Behind a group without tokens the first token is the first comma, if there is one. -/
theorem joined_tokens_of_empty {others : List Group} {commas : List Token}
    (count : others.length = commas.length) (span : Span) :
    (joinedTokens (⟨[], span⟩ :: others) commas).head? = commas.head? := by
  cases commas with
  | nil =>
      rw [List.eq_nil_of_length_eq_zero count]
      rfl
  | cons t further => rfl

namespace Joined

variable {start stop : Nat} {t : Token} {rest : List Token} {group : Group}
  {operands others : List Group}

theorem nothing (forward : start ≤ stop) : Joined start stop [] [⟨[], ⟨start, stop⟩⟩] where
  count := rfl
  solid := by simp
  joins := rfl
  fill := ⟨rfl, forward, rfl⟩
  inside := by simp

theorem past_comma (comma : t.lexeme = .comma) (ahead : start ≤ t.span.start)
    (width : t.span.start ≤ t.span.stop) (joined : Joined t.span.stop stop rest others) :
    Joined start stop (t :: rest) (⟨[], ⟨start, t.span.start⟩⟩ :: others) := by
  have commas := commas_of_comma comma rest
  apply Joined.mk
  case count => rw [commas, List.length_cons, List.length_cons, joined.count]
  case solid => exact List.forall_mem_cons.mpr ⟨by simp, joined.solid⟩
  case joins => rw [commas, joined_tokens_comma, joined.joins, List.nil_append]
  case fill =>
    rw [commas]
    exact ⟨rfl, ahead, rfl, width, joined.fill⟩
  case inside => exact List.forall_mem_cons.mpr ⟨by simp, joined.inside⟩

theorem push (other : t.lexeme ≠ .comma) (starts : group.span.start ≤ t.span.start)
    (stops : t.span.stop ≤ group.span.stop) (joined : Joined start stop rest (group :: others)) :
    Joined start stop (t :: rest) (group.push t :: others) := by
  have commas := commas_of_other other rest
  obtain ⟨solid, othersSolid⟩ := List.forall_mem_cons.mp joined.solid
  obtain ⟨inside, othersInside⟩ := List.forall_mem_cons.mp joined.inside
  apply Joined.mk
  case count =>
    rw [commas]
    exact joined.count
  case solid =>
    exact List.forall_mem_cons.mpr ⟨List.forall_mem_cons.mpr ⟨other, solid⟩, othersSolid⟩
  case joins => rw [commas, joined_tokens_push, joined.joins]
  case fill =>
    rw [commas, joined_spans_push]
    exact joined.fill
  case inside =>
    exact List.forall_mem_cons.mpr
      ⟨List.forall_mem_cons.mpr ⟨⟨starts, stops⟩, inside⟩, othersInside⟩

/-- The first group reaches from the start to the first comma, or to the end if there is none. -/
theorem first_span (joined : Joined start stop rest (group :: others)) :
    group.span.start = start ∧
      (group.span.stop = stop ∨ ∃ t ∈ rest, group.span.stop = t.span.start) := by
  have fill := joined.fill
  have count := joined.count
  cases commas : commasOf rest with
  | nil =>
      rw [commas] at fill count
      have alone : others = [] := List.eq_nil_of_length_eq_zero (Nat.succ.inj count)
      rw [alone] at fill
      exact ⟨fill.1, Or.inl fill.2.2⟩
  | cons t further =>
      rw [commas] at fill
      have found : t ∈ commasOf rest := by
        rw [commas]
        exact List.mem_cons_self
      exact ⟨fill.1, Or.inr ⟨t, (mem_commas.mp found).1, fill.2.2.1.symm⟩⟩

/-- Without a token, the one group is that of the whole range. -/
theorem eq_of_nothing (joined : Joined start stop [] operands) :
    operands = [⟨[], ⟨start, stop⟩⟩] := by
  obtain ⟨⟨tokens, span⟩, rfl⟩ := List.length_eq_one_iff.mp joined.count
  have none : tokens ++ [] = [] := joined.joins
  obtain ⟨starts, _, stops⟩ := joined.fill
  rw [List.append_nil] at none
  rw [none]
  cases span
  cases starts
  cases stops
  rfl

/-- A comma comes first only where the first group is empty. -/
theorem of_comma (joined : Joined start stop (t :: rest) operands) (comma : t.lexeme = .comma) :
    ∃ others, operands = ⟨[], ⟨start, t.span.start⟩⟩ :: others ∧
      Joined t.span.stop stop rest others := by
  obtain ⟨count, solid, joins, fill, inside⟩ := joined
  rw [commas_of_comma comma] at count joins fill
  cases operands with
  | nil => contradiction
  | cons group others =>
      obtain ⟨first, othersSolid⟩ := List.forall_mem_cons.mp solid
      rw [joined_tokens_comma] at joins
      obtain ⟨tokens, span⟩ := group
      cases tokens with
      | cons u us =>
          have same : u = t := (List.cons.inj joins).1
          exact absurd comma (same ▸ first u List.mem_cons_self)
      | nil =>
          obtain ⟨starts, _, stops, _, further⟩ := fill
          have place : span = ⟨start, t.span.start⟩ := by
            rw [← starts, stops]
          rw [place]
          exact ⟨others, rfl, Nat.succ.inj count, othersSolid, (List.cons.inj joins).2, further,
            (List.forall_mem_cons.mp inside).2⟩

/-- Any other token comes first only where it is the first of the first group. -/
theorem of_other (joined : Joined start stop (t :: rest) operands) (other : t.lexeme ≠ .comma) :
    ∃ group others, operands = group.push t :: others ∧
      Joined start stop rest (group :: others) := by
  obtain ⟨count, solid, joins, fill, inside⟩ := joined
  rw [commas_of_other other] at count joins fill
  cases operands with
  | nil => contradiction
  | cons group others =>
      obtain ⟨tokens, span⟩ := group
      cases tokens with
      | nil =>
          -- an empty first group would put a comma in front
          have head := joined_tokens_of_empty (Nat.succ.inj count) span
          rw [joins, List.head?_cons] at head
          have member : t ∈ commasOf rest := List.mem_of_head? head.symm
          exact absurd (mem_commas.mp member).2 other
      | cons u us =>
          have pushed : u :: joinedTokens (⟨us, span⟩ :: others) (commasOf rest) = t :: rest :=
            (joined_tokens_push u ⟨us, span⟩ others _).symm.trans joins
          obtain ⟨same, further⟩ := List.cons.inj pushed
          obtain ⟨first, othersSolid⟩ := List.forall_mem_cons.mp solid
          obtain ⟨within, othersInside⟩ := List.forall_mem_cons.mp inside
          rw [same]
          refine ⟨⟨us, span⟩, others, rfl, count, ?_, further, ?_, ?_⟩
          · exact List.forall_mem_cons.mpr ⟨(List.forall_mem_cons.mp first).2, othersSolid⟩
          · rw [← joined_spans_push u]
            exact fill
          · exact List.forall_mem_cons.mpr ⟨(List.forall_mem_cons.mp within).2, othersInside⟩

/-- What joins to a list is what cutting it at the commas gives. -/
theorem eq_groups_from {tokens : List Token} (joined : Joined start stop tokens operands) :
    operands = groupsFrom stop start tokens := by
  induction tokens generalizing start operands with
  | nil => exact joined.eq_of_nothing
  | cons t rest ih =>
      rw [groupsFrom]
      split_ifs with comma
      · obtain ⟨others, rfl, further⟩ := joined.of_comma comma
        rw [ih further]
      · obtain ⟨group, others, rfl, further⟩ := joined.of_other comma
        rw [← ih further]
        rfl

end Joined

/-- By induction on the tokens: a comma closes an empty group in front of the others, and any other
token goes into the first group, which reaches beyond it. -/
theorem groups_from_joined {start stop : Nat} {tokens : List Token} (forward : start ≤ stop)
    (lined : Lined start stop tokens) :
    Joined start stop tokens (groupsFrom stop start tokens) := by
  induction tokens generalizing start with
  | nil => exact Joined.nothing forward
  | cons t rest ih =>
      obtain ⟨ahead, width, ends⟩ := lined.between t List.mem_cons_self
      rw [groupsFrom]
      split_ifs with comma
      · exact Joined.past_comma comma ahead width (ih ends lined.tail_behind)
      · have joined := ih forward lined.tail
        cases groups : groupsFrom stop start rest with
        | nil =>
            have count := joined.count
            rw [groups] at count
            contradiction
        | cons group others =>
            rw [groups] at joined
            obtain ⟨starts, stops⟩ := joined.first_span
            apply joined.push comma (starts.trans_le ahead)
            -- where the first group ends is settled behind this token, at a comma or at the end
            rcases stops with atEnd | ⟨later, member, atComma⟩
            · rw [atEnd]
              exact ends
            · rw [atComma]
              exact lined.behind later member

theorem groups_of_tokens {tokens : List Token} (filled : tokens ≠ []) (start stop : Nat) :
    groups start stop tokens = groupsFrom stop start tokens := by
  rw [groups, if_neg (by simpa using filled)]

theorem Lined.start_le_stop {start stop : Nat} {tokens : List Token}
    (lined : Lined start stop tokens) (filled : tokens ≠ []) : start ≤ stop := by
  obtain ⟨t, member⟩ := List.exists_mem_of_ne_nil tokens filled
  obtain ⟨ahead, width, ends⟩ := lined.between t member
  exact ahead.trans (width.trans ends)

theorem groups_joined {start stop : Nat} {tokens : List Token} (lined : Lined start stop tokens)
    (filled : tokens ≠ []) : Joined start stop tokens (groups start stop tokens) := by
  rw [groups_of_tokens filled]
  exact groups_from_joined (lined.start_le_stop filled) lined

/-- The tokens behind the opcode of a text stand one after another up to its end. -/
theorem operand_tokens_lined (text : List Char) :
    Lined (splitOpcode (scan text).tokens).2.1 (byteLength text)
      (splitOpcode (scan text).tokens).2.2 := by
  obtain ⟨_, _, scanned, ahead, apart⟩ :=
    split_opcode_leaves (fun _ => id) (scanned_tokens_apart text)
  refine ⟨?_, apart⟩
  intro t member
  have place := token_within (scanned t member)
  exact ⟨ahead t member, place.ordered, place.inside⟩

/-- The operands of any text fill what stands behind its opcode, whatever is wrong with them. -/
theorem operand_groups_joined {text : List Char}
    (filled : (splitOpcode (scan text).tokens).2.2 ≠ []) :
    Joined (splitOpcode (scan text).tokens).2.1 (byteLength text)
      (splitOpcode (scan text).tokens).2.2 (operandGroups text) :=
  groups_joined (operand_tokens_lined text) filled

/-- Cutting at the commas undoes joining by commas. Only an empty list has no groups. Any other has
those that it is joined of, and these alone: one more than there are commas, none with a comma in it,
and each around its tokens. With the commas between them they fill the range: every byte of it is in
one group or comma, and no other byte is in any. -/
theorem cutting_undoes_joining {start stop : Nat} {tokens : List Token}
    (lined : Lined start stop tokens) :
    (groups start stop tokens = [] ↔ tokens = []) ∧
      (tokens ≠ [] →
        (∀ operands, Joined start stop tokens operands ↔ operands = groups start stop tokens) ∧
          ∀ byte, (joinedSpans (groups start stop tokens) (commasOf tokens)).countP
              (fun span => span.Contains byte) =
            if start ≤ byte ∧ byte < stop then 1 else 0) := by
  constructor
  · constructor
    · intro none
      by_contra filled
      have count := (groups_joined lined filled).count
      rw [none] at count
      contradiction
    · rintro rfl
      rfl
  · intro filled
    have joined := groups_joined lined filled
    refine ⟨?_, joined.fill.count_containing⟩
    intro operands
    constructor
    · intro other
      rw [groups_of_tokens filled]
      exact other.eq_groups_from
    · rintro rfl
      exact joined

/-- A comma in front, two in a row with a blank between them, and one at the end: each of the empty
operands has its place. -/
theorem empty_operands_have_places :
    Lined 3 12 [⟨.comma, ⟨3, 4⟩⟩, ⟨.word "a0", ⟨5, 7⟩⟩, ⟨.leftParen, ⟨7, 8⟩⟩, ⟨.comma, ⟨8, 9⟩⟩,
        ⟨.comma, ⟨10, 11⟩⟩] ∧
      Joined 3 12 [⟨.comma, ⟨3, 4⟩⟩, ⟨.word "a0", ⟨5, 7⟩⟩, ⟨.leftParen, ⟨7, 8⟩⟩, ⟨.comma, ⟨8, 9⟩⟩,
          ⟨.comma, ⟨10, 11⟩⟩]
        [⟨[], ⟨3, 3⟩⟩, ⟨[⟨.word "a0", ⟨5, 7⟩⟩, ⟨.leftParen, ⟨7, 8⟩⟩], ⟨4, 8⟩⟩, ⟨[], ⟨9, 10⟩⟩,
          ⟨[], ⟨11, 12⟩⟩] := by
  have lined : Lined 3 12 [⟨.comma, ⟨3, 4⟩⟩, ⟨.word "a0", ⟨5, 7⟩⟩, ⟨.leftParen, ⟨7, 8⟩⟩,
      ⟨.comma, ⟨8, 9⟩⟩, ⟨.comma, ⟨10, 11⟩⟩] := by
    refine ⟨by decide, ?_⟩
    unfold Apart
    decide
  have others := (cutting_undoes_joining lined).2 (List.cons_ne_nil _ _)
  exact ⟨lined, (others.1 _).mpr (by decide)⟩

end Instruction

end Retirement
