import Retirement.Proofs.Json.Values
import Retirement.Proofs.Text.Address
import Retirement.Proofs.Trace.Spelling

/-!
Reading the fields of a row. Every text of a field is read as the field's value; and when a field is
read from any value whatever, then that value has been read to its end.
-/

namespace Retirement.Trace

open Json

theorem read_mnemonic_skips : Skips readMnemonic := by
  intro cursor
  simp only [readMnemonic, skip_skip]

theorem read_unit_skips : Skips readUnit := by
  intro cursor
  simp only [readUnit, skip_skip]

theorem read_cycle_skips : Skips readCycle := by
  intro cursor
  simp only [readCycle, skip_skip]

theorem read_nothing_skips : Skips readNothing := by
  intro cursor
  simp only [readNothing, skip_skip]

theorem read_pc_skips (rounds : Nat) : Skips (readPc rounds) := by
  intro cursor
  simp only [readPc, skip_skip]

section

variable {gap tail : List Char} (blank : Blank gap) (offset : Nat)

include blank in
theorem read_mnemonic_text {mnemonic : String} {text : List Char}
    (written : StringText mnemonic text) (tail : List Char) :
    ∃ after, readMnemonic ⟨offset, gap ++ (text ++ tail)⟩ = .ok (mnemonic, ⟨after, tail⟩) := by
  obtain ⟨body, spells, rfl⟩ := written
  obtain ⟨after, read⟩ := read_string_spelled spells (offset + gap.length + 1) tail
  refine ⟨after, ?_⟩
  rw [quotedText, List.cons_append, List.append_assoc,
    read_mnemonic_skips.past_blank blank (by decide)]
  exact read

include blank in
theorem read_unit_text {u : ExecUnit} {text : List Char} (written : StringText u.name text)
    (tail : List Char) :
    ∃ after, readUnit ⟨offset, gap ++ (text ++ tail)⟩ = .ok (u, ⟨after, tail⟩) := by
  obtain ⟨body, spells, rfl⟩ := written
  obtain ⟨after, read⟩ := read_string_spelled spells (offset + gap.length + 1) tail
  refine ⟨after, ?_⟩
  rw [quotedText, List.cons_append, List.append_assoc, read_unit_skips.past_blank blank (by decide)]
  change readUnitName ⟨offset + gap.length + 1, body ++ '"' :: tail⟩ = _
  rw [readUnitName, read]
  simp only [bind, Except.bind, ExecUnit.of_name_name]

include blank in
theorem read_cycle_text {cycle : Nat} {text : List Char} (written : IntegerText cycle text)
    (fits : cycle ≤ Text.maxWord) (ends : Ends tail) :
    ∃ after, readCycle ⟨offset, gap ++ (text ++ tail)⟩ = .ok (cycle, ⟨after, tail⟩) := by
  obtain ⟨after, read⟩ := read_integer written fits ends (offset + gap.length)
  obtain ⟨c, rest, rfl, digit⟩ := integer_text_starts written
  have noSign : c ≠ '-' := ne_of_digit digit rfl
  have solid := digit_is_solid digit
  refine ⟨after, ?_⟩
  rw [List.cons_append] at read ⊢
  rw [read_cycle_skips.past_blank blank solid, readCycle, skip_solid solid]
  simp only [noSign, digit, if_false, if_true, read]
  rfl

theorem read_pc_of_value {c : Char} (solid : isSpace c = false) (noNull : c ≠ 'n') (rounds offset : Nat)
    (rest : List Char) :
    readPc rounds ⟨offset, c :: rest⟩ =
      (readValue rounds (deepest - 2) ⟨offset, c :: rest⟩ >>= fun (value, cursor) =>
        .ok ((addressOf value).map some, cursor)) := by
  rw [readPc, skip_solid solid]
  split
  · rename_i same
    exact absurd (List.cons.inj same).1 noNull
  · rfl

include blank in
theorem read_pc_text {pc : Option Nat} {text : List Char} (written : PcText pc text)
    (fits : ∀ address ∈ pc, address ≤ Text.maxWord) (ends : Ends tail) (rounds : Nat) :
    ∃ after, readPc rounds ⟨offset, gap ++ (text ++ tail)⟩ = .ok (.ok pc, ⟨after, tail⟩) := by
  cases written with
  | null =>
      refine ⟨offset + gap.length + 4, ?_⟩
      rw [List.cons_append, (read_pc_skips rounds).past_blank blank (by decide)]
      rfl
  | @number pc text written =>
      obtain ⟨after, read⟩ := read_integer written (fits pc rfl) ends (offset + gap.length)
      obtain ⟨c, rest, rfl, digit⟩ := integer_text_starts written
      have solid := digit_is_solid digit
      refine ⟨after, ?_⟩
      rw [List.cons_append] at read ⊢
      rw [(read_pc_skips rounds).past_blank blank solid,
        read_pc_of_value solid (ne_of_digit digit rfl), read_value_of_digit _ _ _ digit, read]
      rfl
  | @string pc s text address spelled =>
      obtain ⟨body, spells, rfl⟩ := spelled
      obtain ⟨after, read⟩ := read_string_spelled spells (offset + gap.length + 1) tail
      have known := Text.read_address_of_text address (fits pc rfl)
      refine ⟨after, ?_⟩
      rw [quotedText, List.cons_append, List.append_assoc,
        (read_pc_skips rounds).past_blank blank (by decide),
        read_pc_of_value (by decide) (by decide), read_value_of_string, List.singleton_append, read]
      simp only [bind, Except.bind, addressOf, known]
      rfl

end

section

variable {gap value tail : List Char} (blank : Blank gap) (formed : WellFormed value)
  (ends : Ends tail) {offset : Nat} {cursor : Cursor}

include blank formed in
theorem read_mnemonic_stops {mnemonic : String}
    (read : readMnemonic ⟨offset, gap ++ (value ++ tail)⟩ = .ok (mnemonic, cursor)) :
    cursor.rest = tail := by
  obtain ⟨c, rest, rfl, starts⟩ := starts_of_well_formed formed
  rw [List.cons_append, read_mnemonic_skips.past_blank blank starts.solid] at read
  cases starts with
  | string quotable =>
      rw [List.append_assoc] at read
      exact read_string_stops quotable read
  | magnitude digit text =>
      rw [readMnemonic, skip_solid (digit_is_solid digit)] at read
      split at read
      · rename_i same
        exact absurd (List.cons.inj same).1 (ne_of_digit digit rfl)
      · contradiction
  | _ => contradiction

theorem cycle_of_stays {n : Number} {cycle : Nat} {after : Cursor}
    (read : cycleOf n after = .ok (cycle, cursor)) : cursor = after := by
  cases n with
  | natural n => exact (Prod.mk.inj (Except.ok.inj read)).2.symm
  | negative n => contradiction
  | float x => contradiction

include blank formed ends in
theorem read_cycle_stops {cycle : Nat}
    (read : readCycle ⟨offset, gap ++ (value ++ tail)⟩ = .ok (cycle, cursor)) :
    cursor.rest = tail := by
  obtain ⟨c, rest, rfl, starts⟩ := starts_of_well_formed formed
  rw [List.cons_append, read_cycle_skips.past_blank blank starts.solid] at read
  cases starts with
  | negative text =>
      obtain ⟨⟨n, after⟩, magnitude, final⟩ := ok_of_bind read
      rw [cycle_of_stays final]
      exact read_magnitude_stops text ends magnitude
  | magnitude digit text =>
      have noSign : c ≠ '-' := ne_of_digit digit rfl
      rw [readCycle, skip_solid (digit_is_solid digit)] at read
      simp only [noSign, digit, if_false, if_true] at read
      obtain ⟨⟨n, after⟩, magnitude, final⟩ := ok_of_bind read
      rw [cycle_of_stays final]
      exact read_magnitude_stops text ends magnitude
  | _ => contradiction

include blank formed in
theorem read_nothing_stops (read : readNothing ⟨offset, gap ++ (value ++ tail)⟩ = .ok cursor) :
    cursor.rest = tail := by
  obtain ⟨c, rest, rfl, starts⟩ := starts_of_well_formed formed
  rw [List.cons_append, read_nothing_skips.past_blank blank starts.solid] at read
  cases starts with
  | null =>
      obtain rfl := Except.ok.inj read
      rfl
  | magnitude digit text =>
      rw [readNothing, skip_solid (digit_is_solid digit)] at read
      split at read
      · rename_i same
        exact absurd (List.cons.inj same).1 (ne_of_digit digit rfl)
      · contradiction
  | _ => contradiction

theorem read_unit_name_stops {body : List Char} (quotable : Quotable body) {u : ExecUnit}
    (read : readUnitName ⟨offset, body ++ '"' :: tail⟩ = .ok (u, cursor)) : cursor.rest = tail := by
  obtain ⟨⟨name, after⟩, first, final⟩ := ok_of_bind read
  have behind := read_string_stops quotable first
  simp only at final
  split at final
  · obtain ⟨-, rfl⟩ := Prod.mk.inj (Except.ok.inj final)
    exact behind
  · contradiction

/-- What is read when a unit stands in an object, one after the other. -/
theorem read_unit_of_object {lead rest : List Char} (leadBlank : Blank lead) {u : ExecUnit}
    (read : readUnit ⟨offset, '\x7b' :: (lead ++ '"' :: rest)⟩ = .ok (u, cursor)) :
    ∃ before named colon nothing, readUnitName ⟨before, rest⟩ = .ok (u, named) ∧
      readColon named = .ok colon ∧ readNothing colon = .ok nothing ∧
      nothing.skipSpace.rest = '\x7d' :: cursor.rest := by
  rw [readUnit, skip_solid (by decide)] at read
  simp only [skip_blank leadBlank (by decide : isSpace '"' = false)] at read
  obtain ⟨⟨u, named⟩, first, read⟩ := ok_of_bind read
  obtain ⟨colon, second, read⟩ := ok_of_bind read
  obtain ⟨nothing, third, read⟩ := ok_of_bind read
  simp only at read
  split at read
  · contradiction
  · rename_i rest closes
    obtain ⟨rfl, rfl⟩ := Prod.mk.inj (Except.ok.inj read)
    exact ⟨_, named, colon, nothing, first, second, third, closes⟩
  · contradiction

theorem read_unit_of_empty_object {gap : List Char} (gapBlank : Blank gap) {u : ExecUnit} :
    readUnit ⟨offset, '\x7b' :: (gap ++ '\x7d' :: tail)⟩ ≠ .ok (u, cursor) := by
  intro read
  rw [readUnit, skip_solid (by decide)] at read
  simp only [skip_blank gapBlank (by decide : isSpace '\x7d' = false)] at read
  contradiction

/-- The only member of an object that is read as a unit ends where the object does. -/
theorem read_unit_member_stops {member : List Char × List Char} {text behind : List Char}
    (memberFormed : WellFormed member.2) (layout : MemberText RawText member text)
    {c : Char} (solid : isSpace c = false) {u : ExecUnit}
    (read : readUnit ⟨offset, '\x7b' :: (text ++ c :: behind)⟩ = .ok (u, cursor)) :
    c :: behind = '\x7d' :: cursor.rest := by
  obtain @⟨name, lead, nameText, beforeColon, afterColon, value, trail, leadBlank, nameSpelled,
    beforeBlank, afterBlank, trailBlank⟩ := layout
  obtain ⟨quotable, rfl⟩ := nameSpelled
  simp only [quotedText, List.cons_append, List.append_assoc, List.nil_append] at read
  obtain ⟨before, named, colon, nothing, first, second, third, closes⟩ :=
    read_unit_of_object leadBlank read
  have rest := read_unit_name_stops quotable first
  obtain ⟨place, _⟩ := named
  obtain rfl := rest
  rw [read_colon_after_blank beforeBlank] at second
  obtain rfl := Except.ok.inj second
  have left := read_nothing_stops afterBlank memberFormed third
  obtain ⟨reached, _⟩ := nothing
  obtain rfl := left
  rw [skip_blank trailBlank solid] at closes
  exact closes

include blank formed in
theorem read_unit_stops {u : ExecUnit}
    (read : readUnit ⟨offset, gap ++ (value ++ tail)⟩ = .ok (u, cursor)) : cursor.rest = tail := by
  obtain ⟨c, rest, rfl, starts⟩ := starts_of_well_formed formed
  rw [List.cons_append, read_unit_skips.past_blank blank starts.solid] at read
  cases starts with
  | string quotable =>
      rw [List.append_assoc] at read
      exact read_unit_name_stops quotable read
  | magnitude digit text =>
      rw [readUnit, skip_solid (digit_is_solid digit)] at read
      split at read
      · contradiction
      · rename_i same
        exact absurd (List.cons.inj same).1 (ne_of_digit digit rfl)
      · rename_i same
        exact absurd (List.cons.inj same).1 (ne_of_digit digit rfl)
      · contradiction
  | object layout inner =>
      obtain ⟨body, same, content⟩ := layout
      obtain rfl := (List.cons.inj same).2
      rw [List.append_assoc] at read
      rcases content with ⟨_, bodyBlank⟩ | separated
      · exact absurd read (read_unit_of_empty_object bodyBlank)
      · cases separated with
        | last first =>
            have closes := read_unit_member_stops (inner _ List.mem_cons_self) first (by decide) read
            exact (List.cons.inj closes).2.symm
        | more first others =>
            rw [List.append_assoc] at read
            have closes := read_unit_member_stops (inner _ List.mem_cons_self) first (by decide) read
            exact absurd (List.cons.inj closes).1 (by decide)
  | _ => contradiction

theorem read_value_of_array {rounds depth : Nat} {rest : List Char} {v : Value}
    (read : readValue rounds depth ⟨offset, '[' :: rest⟩ = .ok (v, cursor)) :
    ∃ items, v = .array items := by
  cases depth with
  | zero => contradiction
  | succ depth =>
      obtain ⟨⟨items, after⟩, first, read⟩ := ok_of_bind read
      obtain ⟨closed, second, read⟩ := ok_of_bind read
      exact ⟨items, (Prod.mk.inj (Except.ok.inj read)).1.symm⟩

theorem read_value_of_object {rounds depth : Nat} {rest : List Char} {v : Value}
    (read : readValue rounds depth ⟨offset, '\x7b' :: rest⟩ = .ok (v, cursor)) :
    ∃ members, v = .object members := by
  cases depth with
  | zero => contradiction
  | succ depth =>
      obtain ⟨⟨members, after⟩, first, read⟩ := ok_of_bind read
      obtain ⟨closed, second, read⟩ := ok_of_bind read
      exact ⟨members, (Prod.mk.inj (Except.ok.inj read)).1.symm⟩

include ends in
/-- What has an address is no container, and any other value is read to its end. -/
theorem read_value_stops {c : Char} {rest : List Char} (starts : StartsAs c rest)
    {rounds depth : Nat} {v : Value} {address : Nat} (known : addressOf v = .ok address)
    (read : readValue rounds depth ⟨offset, c :: (rest ++ tail)⟩ = .ok (v, cursor)) :
    cursor.rest = tail := by
  obtain ⟨containers, same⟩ := read_value_with rounds depth
  cases starts with
  | null | true | false =>
      rw [same] at read
      obtain ⟨-, rfl⟩ := Prod.mk.inj (Except.ok.inj read)
      rfl
  | negative text =>
      rw [same] at read
      obtain ⟨⟨n, after⟩, magnitude, final⟩ := ok_of_bind read
      obtain ⟨-, rfl⟩ := Prod.mk.inj (Except.ok.inj final)
      exact read_magnitude_stops text ends magnitude
  | magnitude digit text =>
      rw [read_value_of_digit _ _ _ digit] at read
      obtain ⟨⟨n, after⟩, magnitude, final⟩ := ok_of_bind read
      obtain ⟨-, rfl⟩ := Prod.mk.inj (Except.ok.inj final)
      exact read_magnitude_stops text ends magnitude
  | string quotable =>
      rw [read_value_of_string, List.append_assoc] at read
      obtain ⟨⟨s, after⟩, first, final⟩ := ok_of_bind read
      obtain ⟨-, rfl⟩ := Prod.mk.inj (Except.ok.inj final)
      exact read_string_stops quotable first
  | array =>
      obtain ⟨items, rfl⟩ := read_value_of_array read
      contradiction
  | object layout inner =>
      obtain ⟨members, rfl⟩ := read_value_of_object read
      contradiction

include blank formed ends in
theorem read_pc_stops {rounds : Nat} {pc : Option Nat}
    (read : readPc rounds ⟨offset, gap ++ (value ++ tail)⟩ = .ok (.ok pc, cursor)) :
    cursor.rest = tail := by
  obtain ⟨c, rest, rfl, starts⟩ := starts_of_well_formed formed
  rw [List.cons_append, (read_pc_skips rounds).past_blank blank starts.solid] at read
  by_cases null : c = 'n'
  · cases starts with
    | null =>
        obtain ⟨-, rfl⟩ := Prod.mk.inj (Except.ok.inj read)
        rfl
    | magnitude digit text => exact absurd null (ne_of_digit digit rfl)
    | _ => contradiction
  · rw [read_pc_of_value starts.solid null] at read
    obtain ⟨⟨v, after⟩, first, final⟩ := ok_of_bind read
    obtain ⟨address, rfl⟩ := Prod.mk.inj (Except.ok.inj final)
    cases known : addressOf v with
    | error fault =>
        rw [known] at address
        contradiction
    | ok found => exact read_value_stops ends starts known first

end

end Retirement.Trace
