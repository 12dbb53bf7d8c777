import Retirement.Json.Reader
import Retirement.Proofs.Json.Passing

/-!
Values and what stands between them. The first character of a value tells its form, so that a reader
which looks at it knows what follows; blanks before it make no difference to any reader.
-/

namespace Retirement.Json

theorem ok_of_bind {Fault First Result : Type} {first : Except Fault First}
    {next : First → Except Fault Result} {result : Result}
    (run : (first >>= next) = .ok result) : ∃ a, first = .ok a ∧ next a = .ok result := by
  cases first with
  | error fault => contradiction
  | ok a => exact ⟨a, rfl, run⟩

def Skips {Result : Type} (read : Cursor → Result) : Prop :=
  ∀ cursor : Cursor, read cursor.skipSpace = read cursor

theorem Skips.past_blank {Result : Type} {read : Cursor → Result} (skips : Skips read)
    {gap : List Char} (blank : Blank gap) {c : Char} (solid : isSpace c = false) (offset : Nat)
    (rest : List Char) : read ⟨offset, gap ++ c :: rest⟩ = read ⟨offset + gap.length, c :: rest⟩ := by
  rw [← skips, skip_blank blank solid]

inductive StartsAs : Char → List Char → Prop
  | null : StartsAs 'n' ['u', 'l', 'l']
  | true : StartsAs 't' ['r', 'u', 'e']
  | false : StartsAs 'f' ['a', 'l', 's', 'e']
  | negative {rest : List Char} (text : MagnitudeText rest) : StartsAs '-' rest
  | magnitude {c : Char} {rest : List Char} (digit : isDigit c = Bool.true)
      (text : MagnitudeText (c :: rest)) : StartsAs c rest
  | string {body : List Char} (quotable : Quotable body) : StartsAs '"' (body ++ ['"'])
  | array {rest : List Char} : StartsAs '[' rest
  | object {rest : List Char} {members : List (List Char × List Char)}
      (layout : ObjectText RawText members ('\x7b' :: rest))
      (inner : ∀ member ∈ members, WellFormed member.2) : StartsAs '\x7b' rest

theorem starts_of_well_formed {text : List Char} (formed : WellFormed text) :
    ∃ c rest, text = c :: rest ∧ StartsAs c rest := by
  cases formed with
  | null => exact ⟨_, _, rfl, .null⟩
  | true => exact ⟨_, _, rfl, .true⟩
  | false => exact ⟨_, _, rfl, .false⟩
  | number signed magnitude =>
      rcases signed with rfl | rfl
      · obtain ⟨c, rest, rfl, digit⟩ := magnitude_starts_with_digit magnitude
        exact ⟨c, rest, rfl, .magnitude digit magnitude⟩
      · exact ⟨_, _, rfl, .negative magnitude⟩
  | string quotable => exact ⟨_, _, rfl, .string quotable⟩
  | array layout inner =>
      obtain ⟨body, rfl, _⟩ := layout
      exact ⟨_, _, rfl, .array⟩
  | object layout inner =>
      obtain ⟨body, rfl, content⟩ := layout
      exact ⟨_, _, rfl, .object ⟨body, rfl, content⟩ inner⟩

theorem StartsAs.solid {c : Char} {rest : List Char} (starts : StartsAs c rest) :
    isSpace c = Bool.false := by
  cases starts with
  | magnitude digit text => exact digit_is_solid digit
  | _ => rfl

theorem read_string_stops {body : List Char} (quotable : Quotable body) {offset : Nat}
    {tail : List Char} {s : String} {cursor : Cursor}
    (read : readString ⟨offset, body ++ '"' :: tail⟩ = .ok (s, cursor)) : cursor.rest = tail := by
  have behind : afterQuote (body ++ '"' :: tail) = some cursor.rest := string_from_stops read
  rw [after_quote_quotable quotable] at behind
  exact (Option.some.inj behind).symm

inductive Opens : Bool → List Char → Prop
  | first : Opens true []
  | later {trail : List Char} (blank : Blank trail) : Opens false (trail ++ [','])

theorem next_name_opens {first : Bool} {before lead : List Char} (opens : Opens first before)
    (blank : Blank lead) (offset : Nat) (rest : List Char) :
    ∃ after, nextName first ⟨offset, before ++ (lead ++ '"' :: rest)⟩ =
      .ok (.item ⟨after, rest⟩) := by
  cases opens with
  | first =>
      refine ⟨offset + lead.length + 1, ?_⟩
      rw [List.nil_append, nextName, skip_blank blank (by decide)]
      rfl
  | @later trail trailBlank =>
      refine ⟨offset + trail.length + 1 + lead.length + 1, ?_⟩
      have skipped := skip_blank blank (by decide : isSpace '"' = false)
        (offset + trail.length + 1) rest
      rw [List.append_assoc, List.singleton_append, nextName, skip_blank trailBlank (by decide)]
      simp [skipped]

theorem next_item_opens {first : Bool} {before lead : List Char} (opens : Opens first before)
    (blank : Blank lead) {c : Char} (solid : isSpace c = false) (other : c ≠ ']') (offset : Nat)
    (rest : List Char) :
    ∃ after, nextItem first ⟨offset, before ++ (lead ++ c :: rest)⟩ =
      .ok (.item ⟨after, c :: rest⟩) := by
  cases opens with
  | first =>
      refine ⟨offset + lead.length, ?_⟩
      rw [List.nil_append, nextItem, skip_blank blank solid]
      simp
  | @later trail trailBlank =>
      refine ⟨offset + trail.length + 1 + lead.length, ?_⟩
      have skipped := skip_blank blank solid (offset + trail.length + 1) rest
      rw [List.append_assoc, List.singleton_append, nextItem, skip_blank trailBlank (by decide)]
      simp [skipped, other]

theorem next_name_closes {gap : List Char} (blank : Blank gap) (first : Bool) (offset : Nat)
    (tail : List Char) :
    nextName first ⟨offset, gap ++ '\x7d' :: tail⟩ =
      .ok (.done ⟨offset + gap.length, '\x7d' :: tail⟩) := by
  rw [nextName, skip_blank blank (by decide)]
  rfl

theorem next_item_closes {gap : List Char} (blank : Blank gap) (first : Bool) (offset : Nat)
    (tail : List Char) :
    nextItem first ⟨offset, gap ++ ']' :: tail⟩ =
      .ok (.done ⟨offset + gap.length, ']' :: tail⟩) := by
  rw [nextItem, skip_blank blank (by decide)]
  rfl

theorem read_end_blank {gap : List Char} (blank : Blank gap) (offset : Nat) :
    readEnd ⟨offset, gap⟩ = .ok () := by
  rw [readEnd, skip_blank_to_end blank]
  rfl

/-- The name of a member is read together with its colon, and its value is next. -/
theorem next_member {first : Bool} {before : List Char} (opens : Opens first before)
    {member : String × List Char} {text : List Char}
    (layout : MemberText StringText member text) (offset : Nat) (rest : List Char) :
    ∃ opened named place lead trail, Blank lead ∧ Blank trail ∧
      nextName first ⟨offset, before ++ (text ++ rest)⟩ = .ok (.item opened) ∧
        readString opened = .ok (member.1, named) ∧
          readColon named = .ok ⟨place, lead ++ (member.2 ++ (trail ++ rest))⟩ := by
  obtain @⟨name, lead, nameText, beforeColon, afterColon, value, trail, leadBlank, nameSpelled,
    beforeBlank, afterBlank, trailBlank⟩ := layout
  obtain ⟨body, spells, rfl⟩ := nameSpelled
  simp only [quotedText, List.cons_append, List.append_assoc, List.nil_append]
  obtain ⟨opened, item⟩ := next_name_opens opens leadBlank offset
    (body ++ '"' :: (beforeColon ++ ':' :: (afterColon ++ (value ++ (trail ++ rest)))))
  obtain ⟨named, spelled⟩ := read_string_spelled spells opened
    (beforeColon ++ ':' :: (afterColon ++ (value ++ (trail ++ rest))))
  exact ⟨_, _, _, afterColon, trail, afterBlank, trailBlank, item, spelled,
    read_colon_after_blank beforeBlank named _⟩

theorem read_value_with (rounds depth : Nat) :
    ∃ containers, readValue rounds depth = readValueWith containers := by
  cases depth with
  | zero => exact ⟨none, rfl⟩
  | succ depth => exact ⟨_, rfl⟩

theorem read_value_of_string (rounds depth offset : Nat) (rest : List Char) :
    readValue rounds depth ⟨offset, '"' :: rest⟩ =
      (readString ⟨offset + 1, rest⟩ >>= fun (s, cursor) => .ok (.string s, cursor)) := by
  obtain ⟨containers, same⟩ := read_value_with rounds depth
  rw [same]
  rfl

theorem read_value_of_digit (rounds depth offset : Nat) {c : Char} (digit : isDigit c = true)
    (rest : List Char) :
    readValue rounds depth ⟨offset, c :: rest⟩ =
      (readMagnitude false ⟨offset, c :: rest⟩ >>= fun (n, cursor) =>
        .ok (.number n, cursor)) := by
  obtain ⟨containers, same⟩ := read_value_with rounds depth
  obtain ⟨notNull, notTrue, notFalse, notQuote, notMinus⟩ := digit_starts_no_other digit
  rw [same, readValueWith, skip_solid (digit_is_solid digit)]
  simp only [notNull, notTrue, notFalse, notQuote, notMinus, digit, if_false, if_true]

end Retirement.Json
