import Retirement.Proofs.Trace.Drafts
import Retirement.Trace.Reader

/-!
Reading rows. The members of an object are read one after the other into a draft, which holds
exactly the fields that have been met. An object that describes a row is therefore read as that row,
and an object that lacks a field or has one twice is never read.
-/

namespace Retirement.Trace

open Json

section

variable {rounds left : Nat} {first : Bool} {draft : Draft} {cursor opened named place : Cursor}
  {name : String} {field : Field}

theorem row_members_close (done : nextName first cursor = .ok (.done place)) :
    readRowMembers rounds (left + 1) first draft cursor = .ok (.ok draft, place) := by
  rw [readRowMembers, done]
  rfl

variable (item : nextName first cursor = .ok (.item opened))
  (spelled : readString opened = .ok (name, named)) (colon : readColon named = .ok place)

include item spelled

theorem row_members_repeat (known : Field.ofName? name = some field)
    (has : draft.has field = true) :
    readRowMembers rounds (left + 1) first draft cursor =
      .ok (.error (.duplicateField field.name), named) := by
  simp only [readRowMembers, item, spelled, known, has, bind, Except.bind, if_true]

include colon

theorem row_members_extra (unknown : Field.ofName? name = none) {after : Cursor}
    (passed : passValue rounds place = .ok after) :
    readRowMembers rounds (left + 1) first draft cursor =
      readRowMembers rounds left false draft after := by
  simp only [readRowMembers, item, spelled, unknown, colon, passed, bind, Except.bind]

theorem row_members_field (known : Field.ofName? name = some field)
    (fresh : draft.has field = false) {longer : Draft} {after : Cursor}
    (read : draft.read rounds field place = .ok (.ok longer, after)) :
    readRowMembers rounds (left + 1) first draft cursor =
      readRowMembers rounds left false longer after := by
  simp only [readRowMembers, item, spelled, known, fresh, colon, read, bind, Except.bind,
    Bool.false_eq_true, if_false]

theorem field_of_row_members (known : Field.ofName? name = some field)
    (fresh : draft.has field = false) {next : Draft} {reached : Cursor}
    (read : readRowMembers rounds (left + 1) first draft cursor = .ok (.ok next, reached)) :
    ∃ longer after, draft.read rounds field place = .ok (.ok longer, after) ∧
      readRowMembers rounds left false longer after = .ok (.ok next, reached) := by
  simp only [readRowMembers, item, spelled, known, fresh, colon, bind, Except.bind,
    Bool.false_eq_true, if_false] at read
  cases value : draft.read rounds field place with
  | error refusal =>
      simp only [value] at read
      contradiction
  | ok content =>
      obtain ⟨content, after⟩ := content
      cases content with
      | error fault =>
          simp only [value] at read
          obtain ⟨refused, _⟩ := Prod.mk.inj (Except.ok.inj read)
          contradiction
      | ok longer =>
          simp only [value] at read
          exact ⟨longer, after, rfl, read⟩

end

/-- The values of all the members are inside of the brackets. -/
theorem member_values_fit {members : List (String × List Char)} {body : List Char}
    (layout : Separated (MemberText StringText) members body) {rounds : Nat}
    (enough : 2 * body.length ≤ rounds) : ∀ member ∈ members, 2 * member.2.length ≤ rounds := by
  induction layout with
  | last first =>
      have fits := member_value_fits first
      rw [List.forall_mem_singleton]
      omega
  | more first rest ih =>
      have fits := member_value_fits first
      rw [List.length_append, List.length_cons] at enough
      exact List.forall_mem_cons.mpr ⟨by omega, ih (by omega)⟩

section

variable {member : String × List Char} {text : List Char}
  (layout : MemberText StringText member text) {rounds : Nat}
  (enough : 2 * member.2.length ≤ rounds) {rest : List Char} (ends : Ends rest) {first : Bool}
  {before : List Char} (opens : Opens first before) (left offset : Nat)

include layout enough ends opens

theorem row_member_of_row {row : Row} (fits : row.Fits) (tells : Tells row member)
    {met : List Field} (fresh : ∀ field ∈ met, ¬ field.Named member.1) :
    ∃ after trail more, Blank trail ∧
      readRowMembers rounds (left + 1) first (.of row met) ⟨offset, before ++ (text ++ rest)⟩ =
        readRowMembers rounds left false (.of row more) ⟨after, trail ++ rest⟩ ∧
      ∀ field, field ∈ more ↔ field.Named member.1 ∨ field ∈ met := by
  obtain ⟨opened, named, place, lead, trail, leadBlank, trailBlank, item, spelled, colon⟩ :=
    next_member opens layout offset rest
  have endsValue := ends_blank trailBlank ends
  cases tells with
  | @extra name value unnamed formed =>
      have unknown := of_name_eq_none_iff.mpr unnamed
      obtain ⟨after, passed⟩ := pass_well_formed formed enough leadBlank endsValue place
      refine ⟨after, trail, met, trailBlank, row_members_extra item spelled colon unknown passed, ?_⟩
      intro field
      simp only [unnamed field, false_or]
  | @field found name value isNamed written =>
      have known := of_name_eq_some_iff.mpr isNamed
      have absent : (Draft.of row met).has found = false := by
        rw [draft_of_has, decide_eq_false_iff_not]
        exact fun present => fresh found present isNamed
      obtain ⟨after, read⟩ := read_draft_of fits written leadBlank endsValue rounds met place
      refine ⟨after, trail, found :: met, trailBlank,
        row_members_field item spelled colon known absent read, ?_⟩
      · intro field
        rw [List.mem_cons, named_iff_of_known known]

theorem row_member_read {draft next : Draft} (formed : WellFormed member.2) {cursor : Cursor}
    (read : readRowMembers rounds (left + 1) first draft ⟨offset, before ++ (text ++ rest)⟩ =
      .ok (.ok next, cursor)) :
    ∃ after trail longer, Blank trail ∧
      readRowMembers rounds left false longer ⟨after, trail ++ rest⟩ = .ok (.ok next, cursor) ∧
      (∀ field : Field, field.Named member.1 → draft.has field = false) ∧
      ∀ field, longer.has field = true ↔ field.Named member.1 ∨ draft.has field = true := by
  obtain ⟨opened, named, place, lead, trail, leadBlank, trailBlank, item, spelled, colon⟩ :=
    next_member opens layout offset rest
  have endsValue := ends_blank trailBlank ends
  cases known : Field.ofName? member.1 with
  | none =>
      have unnamed := of_name_eq_none_iff.mp known
      obtain ⟨after, passed⟩ := pass_well_formed formed enough leadBlank endsValue place
      rw [row_members_extra item spelled colon known passed] at read
      refine ⟨after, trail, draft, trailBlank, read, ?_, ?_⟩
      · intro field isNamed
        exact absurd isNamed (unnamed field)
      · intro field
        simp only [unnamed field, false_or]
  | some found =>
      by_cases has : draft.has found = true
      · rw [row_members_repeat item spelled known has] at read
        obtain ⟨refused, _⟩ := Prod.mk.inj (Except.ok.inj read)
        contradiction
      · have absent := Bool.eq_false_iff.mpr has
        obtain ⟨longer, after, value, step⟩ :=
          field_of_row_members item spelled colon known absent read
        obtain ⟨stops, marks⟩ := read_draft_stops formed leadBlank endsValue value
        obtain ⟨reached, _⟩ := after
        obtain rfl := stops
        refine ⟨reached, trail, longer, trailBlank, step, ?_, ?_⟩
        · intro field isNamed
          rw [(named_iff_of_known known).mp isNamed]
          exact absent
        · intro field
          simp only [marks, named_iff_of_known known, Bool.or_eq_true, decide_eq_true_eq]

end

/-- The members that describe a row fill the draft with the fields that they name. -/
theorem row_members_of_row {row : Row} (fits : row.Fits) {members : List (String × List Char)}
    {body : List Char} (layout : Separated (MemberText StringText) members body)
    (tells : ∀ member ∈ members, Tells row member) (once : Once members) {rounds left : Nat}
    (enough : ∀ member ∈ members, 2 * member.2.length ≤ rounds) (turns : members.length ≤ left)
    {met : List Field} (fresh : ∀ field ∈ met, ¬ Meets members field) {first : Bool}
    {before : List Char} (opens : Opens first before) (offset : Nat) (tail : List Char) :
    ∃ all after,
      readRowMembers rounds (left + 1) first (.of row met)
          ⟨offset, before ++ (body ++ '\x7d' :: tail)⟩ =
        .ok (.ok (.of row all), ⟨after, '\x7d' :: tail⟩) ∧
      ∀ field, field ∈ all ↔ Meets members field ∨ field ∈ met := by
  induction layout generalizing left met first before offset with
  | @last member text written =>
      have ends : Ends ('\x7d' :: tail) := ends_cons (by decide) tail
      obtain ⟨after, trail, all, trailBlank, step, marks⟩ :=
        row_member_of_row written (enough _ List.mem_cons_self) ends opens left offset fits
          (tells _ List.mem_cons_self) (fun field isMet => (not_meets_cons.mp (fresh field isMet)).1)
      obtain ⟨left, rfl⟩ : ∃ less, left = less + 1 := Nat.exists_eq_add_of_le' turns
      refine ⟨all, after + trail.length, ?_, ?_⟩
      · rw [step]
        exact row_members_close (next_name_closes trailBlank false after tail)
      · intro field
        simp only [marks, meets_cons, meets_nil, or_false]
  | @more member members text body written rest ih =>
      have ends : Ends (',' :: (body ++ '\x7d' :: tail)) := ends_cons (Or.inl rfl) _
      obtain ⟨after, trail, more, trailBlank, step, marks⟩ :=
        row_member_of_row written (enough _ List.mem_cons_self) ends opens left offset fits
          (tells _ List.mem_cons_self) (fun field isMet => (not_meets_cons.mp (fresh field isMet)).1)
      obtain ⟨apart, onceRest⟩ := List.pairwise_cons.mp once
      obtain ⟨left, rfl⟩ : ∃ less, left = less + 1 :=
        Nat.exists_eq_add_of_le' (Nat.one_le_of_lt turns)
      -- A later member is no field of this one, because no field stands twice.
      have freshRest : ∀ field ∈ more, ¬ Meets members field := by
        intro field present
        rcases (marks field).mp present with named | isMet
        · rintro ⟨later, isLater, namedLater⟩
          exact apart later isLater field named namedLater
        · exact (not_meets_cons.mp (fresh field isMet)).2
      obtain ⟨all, reached, read, gathered⟩ :=
        ih (fun later isLater => tells later (List.mem_cons_of_mem _ isLater)) onceRest
          (fun later isLater => enough later (List.mem_cons_of_mem _ isLater))
          (Nat.le_of_succ_le_succ turns) freshRest (Opens.later trailBlank) after
      refine ⟨all, reached, ?_, ?_⟩
      · rw [List.append_assoc, List.cons_append, step, List.append_cons, read]
      · intro field
        rw [gathered, marks, meets_cons, or_left_comm, or_assoc]

/-- Members that are read to the end name no field twice, and the draft has gained what they name. -/
theorem row_members_read {members : List (String × List Char)} {body : List Char}
    (layout : Separated (MemberText StringText) members body)
    (formed : ∀ member ∈ members, WellFormed member.2) {rounds left : Nat}
    (enough : ∀ member ∈ members, 2 * member.2.length ≤ rounds) {first : Bool}
    {before : List Char} (opens : Opens first before) {offset : Nat} {tail : List Char}
    {draft next : Draft} {cursor : Cursor}
    (read : readRowMembers rounds left first draft ⟨offset, before ++ (body ++ '\x7d' :: tail)⟩ =
      .ok (.ok next, cursor)) :
    cursor.rest = '\x7d' :: tail ∧ Once members ∧
      (∀ field, Meets members field → draft.has field = false) ∧
      ∀ field, next.has field = true ↔ Meets members field ∨ draft.has field = true := by
  induction layout generalizing left draft first before offset with
  | @last member text written =>
      have ends : Ends ('\x7d' :: tail) := ends_cons (by decide) tail
      cases left with
      | zero => contradiction
      | succ left =>
          obtain ⟨after, trail, longer, trailBlank, step, absent, marks⟩ :=
            row_member_read written (enough _ List.mem_cons_self) ends opens left offset
              (formed _ List.mem_cons_self) read
          cases left with
          | zero => contradiction
          | succ left =>
              rw [row_members_close (next_name_closes trailBlank false after tail)] at step
              obtain ⟨same, rfl⟩ := Prod.mk.inj (Except.ok.inj step)
              obtain rfl := Except.ok.inj same
              refine ⟨rfl, List.pairwise_singleton _ _, ?_, ?_⟩
              · intro field meets
                rw [meets_cons] at meets
                exact absent field (meets.resolve_right meets_nil)
              · intro field
                simp only [marks, meets_cons, meets_nil, or_false]
  | @more member members text body written rest ih =>
      have ends : Ends (',' :: (body ++ '\x7d' :: tail)) := ends_cons (Or.inl rfl) _
      cases left with
      | zero => contradiction
      | succ left =>
          rw [List.append_assoc, List.cons_append] at read
          obtain ⟨after, trail, longer, trailBlank, step, absent, marks⟩ :=
            row_member_read written (enough _ List.mem_cons_self) ends opens left offset
              (formed _ List.mem_cons_self) read
          rw [List.append_cons trail ',' (body ++ '\x7d' :: tail)] at step
          obtain ⟨reached, once, absentRest, gathered⟩ :=
            ih (fun member isLater => formed member (List.mem_cons_of_mem _ isLater))
              (fun member isLater => enough member (List.mem_cons_of_mem _ isLater))
              (Opens.later trailBlank) step
          refine ⟨reached, List.pairwise_cons.mpr ⟨?_, once⟩, ?_, ?_⟩
          · intro other isLater field named namedLater
            have has := (marks field).mpr (Or.inl named)
            rw [absentRest field ⟨other, isLater, namedLater⟩] at has
            contradiction
          · intro field meets
            rcases meets_cons.mp meets with named | meetsLater
            · exact absent field named
            · have hasNot := absentRest field meetsLater
              rw [← Bool.not_eq_true, marks, not_or] at hasNot
              exact Bool.eq_false_iff.mpr hasNot.2
          · intro field
            rw [gathered, marks, meets_cons, or_left_comm, or_assoc]

theorem close_object_at (offset : Nat) (tail : List Char) :
    closeObject ⟨offset, '\x7d' :: tail⟩ = ⟨⟨offset + 1, tail⟩, none⟩ := rfl

theorem settle_finished {draft : Draft} {row : Row} (finished : draft.finish = .ok row)
    (offset : Nat) (tail : List Char) :
    settle closeObject (finishContent (.ok draft, ⟨offset, '\x7d' :: tail⟩)) =
      .ok (row, ⟨offset + 1, tail⟩) := by
  have content : finishContent (.ok draft, ⟨offset, '\x7d' :: tail⟩) =
      (.ok row, ⟨offset, '\x7d' :: tail⟩) := congrArg (·, _) finished
  rw [content, settle, close_object_at]
  rfl

theorem finished_of_settle {content : Content Draft} {row : Row} {cursor : Cursor}
    (settled : settle closeObject (finishContent content) = .ok (row, cursor)) :
    ∃ draft, content.1 = .ok draft ∧ draft.finish = .ok row ∧
      (closeObject content.2).done = .ok cursor := by
  obtain ⟨read, place⟩ := content
  unfold finishContent at settled
  cases finished : read >>= Draft.finish with
  | error fault =>
      simp only [finished] at settled
      contradiction
  | ok found =>
      simp only [finished] at settled
      obtain ⟨closed, done, same⟩ := ok_of_bind settled
      obtain ⟨rfl, rfl⟩ := Prod.mk.inj (Except.ok.inj same)
      obtain ⟨draft, known, finish⟩ := ok_of_bind finished
      exact ⟨draft, known, finish, done⟩

/-- An object that describes a row is read as that row. -/
theorem read_row_text {row : Row} (fits : row.Fits) {text : List Char} (written : RowText row text)
    {rounds : Nat} (enough : 2 * text.length ≤ rounds) (offset : Nat) (tail : List Char) :
    ∃ after, readRow rounds ⟨offset, text ++ tail⟩ = .ok (row, ⟨after, tail⟩) := by
  obtain ⟨members, ⟨body, rfl, content⟩, described⟩ := written
  rcases content with ⟨rfl, _⟩ | layout
  · exact absurd (described.present .mnemonic (Or.inl (by decide))) meets_nil
  · simp only [List.length_cons, List.length_append] at enough
    have count := separated_count layout
    have valuesFit := member_values_fit layout (by omega : 2 * body.length ≤ rounds)
    obtain ⟨left, rfl⟩ : ∃ less, rounds = less + 1 := ⟨rounds - 1, by omega⟩
    have turns : members.length ≤ left := by omega
    have fresh : ∀ field ∈ ([] : List Field), ¬ Meets members field := by
      intro field absent
      contradiction
    obtain ⟨all, after, read, gathered⟩ :=
      row_members_of_row fits layout described.tells described.once valuesFit turns fresh
        Opens.first (offset + 1) tail
    have finished : (Draft.of row all).finish = .ok row := by
      apply finish_draft_of
      intro field needed
      exact (gathered field).mpr (Or.inl (described.present field needed))
    refine ⟨after + 1, ?_⟩
    rw [List.cons_append, List.append_assoc]
    change (readRowMembers (left + 1) (left + 1) true (.of row [])
      ⟨offset + 1, body ++ '\x7d' :: tail⟩ >>= fun content =>
        settle closeObject (finishContent content)) = _
    rw [← List.nil_append body, List.append_assoc, read]
    exact settle_finished finished after tail

/-- An object that is read as a row has every field once, and is read to its end. -/
theorem read_row_is_sound {members : List (String × List Char)} {text : List Char}
    (written : AnyObjectText members text) {rounds : Nat} (enough : 2 * text.length ≤ rounds)
    {offset : Nat} {tail : List Char} {row : Row} {cursor : Cursor}
    (read : readRow rounds ⟨offset, text ++ tail⟩ = .ok (row, cursor)) :
    cursor.rest = tail ∧ ¬ Faulty members := by
  obtain ⟨⟨body, rfl, content⟩, formed⟩ := written
  rw [List.cons_append, List.append_assoc] at read
  change (readRowMembers rounds rounds true .blank ⟨offset + 1, body ++ '\x7d' :: tail⟩ >>=
    fun content => settle closeObject (finishContent content)) = _ at read
  obtain ⟨⟨filled, after⟩, inside, settled⟩ := ok_of_bind read
  obtain ⟨draft, rfl, finished, closed⟩ := finished_of_settle settled
  rcases content with ⟨rfl, blank⟩ | layout
  · cases rounds with
    | zero => contradiction
    | succ left =>
        rw [row_members_close (next_name_closes blank true _ tail)] at inside
        obtain ⟨same, _⟩ := Prod.mk.inj (Except.ok.inj inside)
        obtain rfl := Except.ok.inj same
        have absurdly := has_of_finish finished (by decide : Field.mnemonic ≠ .pc)
        contradiction
  · simp only [List.length_cons, List.length_append] at enough
    have valuesFit := member_values_fit layout (by omega : 2 * body.length ≤ rounds)
    obtain ⟨reached, once, _, gathered⟩ :=
      row_members_read layout formed valuesFit Opens.first inside
    obtain ⟨place, _⟩ := after
    obtain rfl := reached
    rw [close_object_at] at closed
    obtain rfl := Except.ok.inj closed
    refine ⟨rfl, ?_⟩
    rintro (⟨field, needed, missing⟩ | twice)
    · have met := (gathered field).mp (has_of_finish finished needed)
      rcases met with meets | blank
      · exact missing meets
      · cases field <;> contradiction
    · exact twice once

end Retirement.Trace
