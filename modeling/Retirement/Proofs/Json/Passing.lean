import Retirement.Json.Skip
import Retirement.Proofs.Json.Numbers
import Retirement.Proofs.Json.Strings

/-!
Passing over values. The walk over a value leaves the brackets that were open before as they were
and takes fewer than two rounds for each of its characters, so that a value nested to any depth is
walked over to its end.
-/

namespace Retirement.Json

theorem skip_of_solid {cursor : Cursor}
    (solid : ∀ c ∈ cursor.rest.head?, isSpace c = false) : cursor.skipSpace = cursor := by
  obtain ⟨offset, rest⟩ := cursor
  cases rest with
  | nil => rfl
  | cons c rest => exact skip_solid (solid c rfl) offset rest

theorem skipped_starts_solid (cursor : Cursor) :
    ∀ c ∈ cursor.skipSpace.rest.head?, isSpace c = false := by
  obtain ⟨offset, rest⟩ := cursor
  change ∀ c ∈ (spacesFrom offset rest).rest.head?, isSpace c = false
  induction rest generalizing offset with
  | nil =>
      intro c member
      contradiction
  | cons first rest ih =>
      rw [spacesFrom]
      split_ifs with space
      · exact ih (offset + 1)
      · intro c member
        obtain rfl := Option.some.inj member
        exact Bool.eq_false_iff.mpr space

theorem skip_skip (cursor : Cursor) : cursor.skipSpace.skipSpace = cursor.skipSpace :=
  skip_of_solid (skipped_starts_solid cursor)

theorem pass_value_skips (rounds : Nat) (stack : List Bracket) (cursor : Cursor) :
    passFrom (rounds + 1) stack .value cursor.skipSpace =
      passFrom (rounds + 1) stack .value cursor := by
  simp only [passFrom, skip_skip]

theorem pass_name_skips (bracket : Bracket) (cursor : Cursor) (go : Cursor → Except Refusal Cursor)
    (skips : ∀ cursor : Cursor, go cursor.skipSpace = go cursor) :
    (passName bracket cursor.skipSpace >>= go) = (passName bracket cursor >>= go) := by
  cases bracket with
  | array => exact skips cursor
  | object => simp only [passName, skip_skip]

structure Passes (text : List Char) : Prop where
  starts : ∃ c rest, text = c :: rest ∧ isSpace c = false ∧ c ≠ ']'
  walk : ∃ cost, cost < 2 * text.length ∧
    ∀ gap, Blank gap → ∀ rounds stack offset tail, Ends tail →
      ∃ after, passFrom (rounds + cost) stack .value ⟨offset, gap ++ (text ++ tail)⟩ =
        passFrom rounds stack .next ⟨after, tail⟩

structure PassesEntry (bracket : Bracket) (text : List Char) : Prop where
  starts : ∃ gap c rest, text = gap ++ c :: rest ∧ Blank gap ∧ isSpace c = false ∧
    c ≠ bracket.closing
  walk : ∃ cost, cost < 2 * text.length ∧
    ∀ rounds stack offset tail, Ends tail →
      ∃ after trail, Blank trail ∧
        (passName bracket ⟨offset, text ++ tail⟩ >>=
            passFrom (rounds + cost) (bracket :: stack) .value) =
          passFrom rounds (bracket :: stack) .next ⟨after, trail ++ tail⟩

theorem passes_scalar {c : Char} {rest : List Char} (solid : isSpace c = false) (other : c ≠ ']')
    (scalar : ∀ offset tail, Ends tail →
      ∃ after, passScalar ⟨offset, c :: rest ++ tail⟩ = .ok (none, ⟨after, tail⟩)) :
    Passes (c :: rest) := by
  refine ⟨⟨c, rest, rfl, solid, other⟩, 1, by rw [List.length_cons]; omega, ?_⟩
  intro gap blank rounds stack offset tail ends
  obtain ⟨after, passed⟩ := scalar (offset + gap.length) tail ends
  refine ⟨after, ?_⟩
  have skipped : Cursor.skipSpace ⟨offset, gap ++ (c :: rest ++ tail)⟩ =
      ⟨offset + gap.length, c :: rest ++ tail⟩ := skip_blank blank solid offset (rest ++ tail)
  rw [passFrom, skipped, passed]
  rfl

theorem pass_scalar_number {c : Char} (digit : isDigit c = true) (offset : Nat)
    (rest : List Char) :
    passScalar ⟨offset, c :: rest⟩ =
      (passMagnitude ⟨offset, c :: rest⟩ >>= fun after => .ok (none, after)) := by
  obtain ⟨notNull, notTrue, notFalse, notQuote, notMinus⟩ := digit_starts_no_other digit
  simp only [passScalar, notNull, notTrue, notFalse, notQuote, notMinus, digit, if_false, if_true]

theorem magnitude_starts_with_digit {text : List Char} (magnitude : MagnitudeText text) :
    ∃ c rest, text = c :: rest ∧ isDigit c = true := by
  obtain @⟨whole, fraction, exponent, ⟨⟨present, all⟩, _⟩, fractionPart, exponentPart⟩ := magnitude
  cases whole with
  | nil => exact absurd rfl present
  | cons c cs => exact ⟨c, _, rfl, all c List.mem_cons_self⟩

theorem digit_is_solid {c : Char} (digit : isDigit c = true) : isSpace c = false := by
  rw [← Bool.not_eq_true]
  intro space
  rcases space_eq space with rfl | rfl | rfl | rfl
  all_goals contradiction

theorem passes_number {sign magnitude : List Char} (signed : sign = [] ∨ sign = ['-'])
    (text : MagnitudeText magnitude) : Passes (sign ++ magnitude) := by
  rcases signed with rfl | rfl
  · obtain ⟨c, rest, rfl, digit⟩ := magnitude_starts_with_digit text
    refine passes_scalar (digit_is_solid digit) (ne_of_digit digit rfl) ?_
    intro offset tail ends
    obtain ⟨after, passed⟩ := pass_magnitude text ends offset
    refine ⟨after, ?_⟩
    rw [List.cons_append] at passed ⊢
    rw [pass_scalar_number digit, passed]
    rfl
  · refine passes_scalar (by decide) (by decide) ?_
    intro offset tail ends
    obtain ⟨after, passed⟩ := pass_magnitude text ends (offset + 1)
    refine ⟨after, ?_⟩
    change (passMagnitude ⟨offset + 1, magnitude ++ tail⟩ >>= fun after => .ok (none, after)) = _
    rw [passed]
    rfl

theorem passes_string {body : List Char} (quotable : Quotable body) : Passes (quotedText body) := by
  refine passes_scalar (by decide) (by decide) ?_
  intro offset tail ends
  obtain ⟨after, passed⟩ := pass_string_quotable quotable (offset + 1) tail
  refine ⟨after, ?_⟩
  rw [List.cons_append, List.append_assoc]
  change (passString (offset + 1) (body ++ '"' :: tail) >>= fun after => .ok (none, after)) = _
  rw [passed]
  rfl

theorem passes_null : Passes ['n', 'u', 'l', 'l'] :=
  passes_scalar (by decide) (by decide) fun offset _ _ => ⟨offset + 4, rfl⟩

theorem passes_true : Passes ['t', 'r', 'u', 'e'] :=
  passes_scalar (by decide) (by decide) fun offset _ _ => ⟨offset + 4, rfl⟩

theorem passes_false : Passes ['f', 'a', 'l', 's', 'e'] :=
  passes_scalar (by decide) (by decide) fun offset _ _ => ⟨offset + 5, rfl⟩

theorem pass_close {bracket : Bracket} {gap : List Char} (blank : Blank gap) {expect : Expect}
    (inside : expect = .firstItem ∨ expect = .next) (rounds : Nat) (stack : List Bracket)
    (offset : Nat) (tail : List Char) :
    passFrom (rounds + 1) (bracket :: stack) expect ⟨offset, gap ++ bracket.closing :: tail⟩ =
      passFrom rounds stack .next ⟨offset + gap.length + 1, tail⟩ := by
  have solid : isSpace bracket.closing = false := by cases bracket <;> rfl
  rcases inside with rfl | rfl
  · rw [passFrom, skip_blank blank solid]
    · exact if_pos rfl
    · exact fun same => Expect.noConfusion same
  · rw [passFrom, skip_blank blank solid]
    · exact if_pos rfl
    · exact fun same => Expect.noConfusion same

theorem pass_comma (bracket : Bracket) {gap : List Char} (blank : Blank gap) (rounds : Nat)
    (stack : List Bracket) (offset : Nat) (rest : List Char) :
    passFrom (rounds + 1) (bracket :: stack) .next ⟨offset, gap ++ ',' :: rest⟩ =
      (passName bracket ⟨offset + gap.length + 1, rest⟩ >>=
        passFrom rounds (bracket :: stack) .value) := by
  have other : ',' ≠ bracket.closing := by cases bracket <;> decide
  rw [passFrom, skip_blank blank (by decide)]
  · simp only [if_neg other, if_true]
  · exact fun same => Expect.noConfusion same

theorem pass_first (bracket : Bracket) {gap : List Char} (blank : Blank gap) {c : Char}
    (solid : isSpace c = false) (other : c ≠ bracket.closing) (rounds : Nat)
    (stack : List Bracket) (offset : Nat) (rest : List Char) :
    passFrom (rounds + 2) (bracket :: stack) .firstItem ⟨offset, gap ++ c :: rest⟩ =
      (passName bracket ⟨offset, gap ++ c :: rest⟩ >>=
        passFrom (rounds + 1) (bracket :: stack) .value) := by
  rw [← pass_name_skips bracket _ _ (pass_value_skips rounds (bracket :: stack)), passFrom,
    skip_blank blank solid]
  · simp only [if_neg other]
  · exact fun same => Expect.noConfusion same

theorem pass_entries {bracket : Bracket} {Entry : Type} {written : Entry → List Char → Prop}
    {entries : List Entry} {body : List Char} (layout : Separated written entries body)
    (passes : ∀ entry ∈ entries, ∀ text, written entry text → PassesEntry bracket text) :
    ∃ cost, cost < 2 * body.length ∧ ∀ rounds stack offset tail,
      ∃ after, (passName bracket ⟨offset, body ++ bracket.closing :: tail⟩ >>=
          passFrom (rounds + cost + 1) (bracket :: stack) .value) =
        passFrom rounds stack .next ⟨after, tail⟩ := by
  have closes : bracket.closing = ',' ∨ bracket.closing = ']' ∨ bracket.closing = '\x7d' := by
    cases bracket <;> decide
  induction layout with
  | @last entry text first =>
      obtain ⟨cost, bound, walk⟩ := (passes entry List.mem_cons_self text first).walk
      refine ⟨cost, bound, ?_⟩
      intro rounds stack offset tail
      obtain ⟨after, trail, blank, reached⟩ :=
        walk (rounds + 1) stack offset (bracket.closing :: tail) (ends_cons closes tail)
      rw [Nat.add_right_comm, reached]
      exact ⟨_, pass_close blank (Or.inr rfl) rounds stack after tail⟩
  | @more entry entries text body first rest ih =>
      obtain ⟨passesFirst, passesRest⟩ := List.forall_mem_cons.mp passes
      obtain ⟨cost, bound, walk⟩ := (passesFirst text first).walk
      obtain ⟨costRest, boundRest, walkRest⟩ := ih passesRest
      refine ⟨costRest + 1 + cost, ?_, ?_⟩
      · rw [List.length_append, List.length_cons]
        omega
      · intro rounds stack offset tail
        have goesOn : Ends (',' :: (body ++ bracket.closing :: tail)) := ends_cons (Or.inl rfl) _
        obtain ⟨after, trail, blank, reached⟩ :=
          walk (rounds + costRest + 1 + 1) stack offset _ goesOn
        have shared : rounds + (costRest + 1 + cost) + 1 = rounds + costRest + 1 + 1 + cost := by
          omega
        rw [List.append_assoc, List.cons_append, shared, reached, pass_comma bracket blank]
        exact walkRest rounds stack _ tail

def Bracket.opening : Bracket → Char
  | array => '['
  | object => '\x7b'

theorem pass_open (bracket : Bracket) {gap : List Char} (blank : Blank gap) (rounds : Nat)
    (stack : List Bracket) (offset : Nat) (rest : List Char) :
    passFrom (rounds + 1) stack .value ⟨offset, gap ++ bracket.opening :: rest⟩ =
      passFrom rounds (bracket :: stack) .firstItem ⟨offset + gap.length + 1, rest⟩ := by
  have solid : isSpace bracket.opening = false := by cases bracket <;> rfl
  rw [passFrom, skip_blank blank solid]
  cases bracket with
  | array => rfl
  | object => rfl

theorem starts_of_separated {bracket : Bracket} {Entry : Type}
    {written : Entry → List Char → Prop} {entries : List Entry} {body : List Char}
    (layout : Separated written entries body)
    (passes : ∀ entry ∈ entries, ∀ text, written entry text → PassesEntry bracket text) :
    ∃ gap c rest, body = gap ++ c :: rest ∧ Blank gap ∧ isSpace c = false ∧
      c ≠ bracket.closing := by
  cases layout with
  | last first => exact (passes _ List.mem_cons_self _ first).starts
  | more first rest =>
      obtain ⟨gap, c, others, rfl, found⟩ := (passes _ List.mem_cons_self _ first).starts
      rw [List.append_assoc]
      exact ⟨gap, c, _, rfl, found⟩

theorem passes_enclosed (bracket : Bracket) {Entry : Type} {written : Entry → List Char → Prop}
    {entries : List Entry} {text : List Char}
    (layout : Enclosed bracket.opening bracket.closing written entries text)
    (passes : ∀ entry ∈ entries, ∀ text, written entry text → PassesEntry bracket text) :
    Passes text := by
  obtain ⟨body, rfl, content⟩ := layout
  refine ⟨⟨bracket.opening, _, rfl, ?_, ?_⟩, ?_⟩
  · cases bracket <;> rfl
  · cases bracket <;> decide
  rcases content with ⟨_, blankBody⟩ | separated
  · refine ⟨2, ?_, ?_⟩
    · simp only [List.length_cons, List.length_append]
      omega
    · intro gap blank rounds stack offset tail ends
      rw [List.cons_append, List.append_assoc, pass_open bracket blank]
      exact ⟨_, pass_close blankBody (Or.inl rfl) rounds stack _ tail⟩
  · obtain ⟨cost, bound, walk⟩ := pass_entries separated passes
    obtain ⟨before, c, others, same, blankBefore, solid, other⟩ :=
      starts_of_separated separated passes
    refine ⟨cost + 3, ?_, ?_⟩
    · simp only [List.length_cons, List.length_append]
      omega
    · intro gap blank rounds stack offset tail ends
      obtain ⟨after, reached⟩ := walk rounds stack (offset + gap.length + 1) tail
      refine ⟨after, ?_⟩
      rw [List.cons_append, List.append_assoc, ← Nat.add_assoc, pass_open bracket blank, ← reached,
        same]
      simp only [List.append_assoc, List.cons_append]
      exact pass_first bracket blankBefore solid other (rounds + cost) stack _ _

theorem passes_item {item text : List Char} (passes : Passes item)
    (layout : ItemText Eq item text) : PassesEntry .array text := by
  obtain @⟨lead, _, trail, leadBlank, rfl, trailBlank⟩ := layout
  obtain ⟨⟨c, rest, same, solid, other⟩, cost, bound, walk⟩ := passes
  refine ⟨⟨lead, c, rest ++ trail, by rw [same, List.cons_append], leadBlank, solid, other⟩,
    cost, ?_, ?_⟩
  · simp only [List.length_append]
    omega
  · intro rounds stack offset tail ends
    obtain ⟨after, reached⟩ :=
      walk lead leadBlank rounds (.array :: stack) offset (trail ++ tail) (ends_blank trailBlank ends)
    refine ⟨after, trail, trailBlank, ?_⟩
    rw [List.append_assoc, List.append_assoc]
    exact reached

theorem pass_name_raw {lead nameText beforeColon : List Char} (leadBlank : Blank lead)
    {name : List Char} (nameSpelled : RawText name nameText) (beforeBlank : Blank beforeColon)
    (offset : Nat) (rest : List Char) :
    ∃ after, passName .object ⟨offset, lead ++ (nameText ++ (beforeColon ++ ':' :: rest))⟩ =
      .ok ⟨after, rest⟩ := by
  obtain ⟨quotable, rfl⟩ := nameSpelled
  obtain ⟨after, passed⟩ := pass_string_quotable quotable (offset + lead.length + 1)
    (beforeColon ++ ':' :: rest)
  refine ⟨after + beforeColon.length + 1, ?_⟩
  rw [quotedText, List.cons_append, List.append_assoc, passName, skip_blank leadBlank (by decide)]
  have colon := skip_blank beforeBlank (by decide : isSpace ':' = false) after rest
  simp only [List.singleton_append, passed, bind, Except.bind, colon]

theorem passes_member {member : List Char × List Char} {text : List Char}
    (passes : Passes member.2) (layout : MemberText RawText member text) :
    PassesEntry .object text := by
  obtain @⟨name, lead, nameText, beforeColon, afterColon, value, trail, leadBlank, nameSpelled,
    beforeBlank, afterBlank, trailBlank⟩ := layout
  obtain ⟨_, cost, bound, walk⟩ : Passes value := passes
  refine ⟨?_, cost, ?_, ?_⟩
  · obtain ⟨quotable, rfl⟩ := nameSpelled
    exact ⟨lead, '"', _, rfl, leadBlank, by decide, by decide⟩
  · simp only [List.length_append, List.length_cons]
    omega
  · intro rounds stack offset tail ends
    obtain ⟨after, passed⟩ := pass_name_raw leadBlank nameSpelled beforeBlank offset
      (afterColon ++ (value ++ (trail ++ tail)))
    obtain ⟨behind, reached⟩ := walk afterColon afterBlank rounds (.object :: stack) after
      (trail ++ tail) (ends_blank trailBlank ends)
    refine ⟨behind, trail, trailBlank, ?_⟩
    simp only [List.append_assoc, List.cons_append, passed]
    exact reached

theorem passes_of_well_formed {text : List Char} (formed : WellFormed text) : Passes text := by
  induction formed with
  | null => exact passes_null
  | true => exact passes_true
  | false => exact passes_false
  | number signed text => exact passes_number signed text
  | string quotable => exact passes_string quotable
  | array layout inner ih =>
      refine passes_enclosed .array layout ?_
      intro item member text entry
      exact passes_item (ih item member) entry
  | object layout inner ih =>
      refine passes_enclosed .object layout ?_
      intro entry member text written
      exact passes_member (ih entry member) written

/-- A well-formed value is passed over to its end, whatever it is and however deep it goes. -/
theorem pass_well_formed {value : List Char} (formed : WellFormed value) {rounds : Nat}
    (enough : 2 * value.length ≤ rounds) {gap tail : List Char} (blank : Blank gap)
    (ends : Ends tail) (offset : Nat) :
    ∃ after, passValue rounds ⟨offset, gap ++ (value ++ tail)⟩ = .ok ⟨after, tail⟩ := by
  obtain ⟨_, cost, bound, walk⟩ := passes_of_well_formed formed
  obtain ⟨after, reached⟩ := walk gap blank (rounds - cost - 1 + 1) [] offset tail ends
  refine ⟨after, ?_⟩
  have shared : rounds = rounds - cost - 1 + 1 + cost := by omega
  rw [passValue, shared, reached]
  rfl

end Retirement.Json
