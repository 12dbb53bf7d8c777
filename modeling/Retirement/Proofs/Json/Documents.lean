import Retirement.Proofs.Json.Items
import Retirement.Proofs.Json.Texts

/-!
Reading whole values. Every text of a value is read as that value, however its strings are spelled
and wherever blanks stand; so a document is read as the value for which it was written.
-/

namespace Retirement.Json

theorem members_close {Entry : Type} (readEntry : Reader Entry) :
    ClosesAt '\x7d' (readMembers readEntry) := by
  intro gap blank left first found offset tail
  rw [readMembers, next_name_closes blank]
  rfl

theorem member_taken {Entry : Type} {readEntry : Reader Entry} (skips : Skips readEntry)
    {written : Entry → List Char → Prop} {member : String × Entry} {text : List Char}
    (layout : NamedText written member text)
    (reads : ∀ value, written member.2 value → value.length ≤ text.length →
      ReadsAs readEntry member.2 value) : TakesAs (readMembers readEntry) member text := by
  obtain ⟨value, isText, layout⟩ := layout
  intro first before opens left found offset rest ends
  obtain ⟨opened, named, place, lead, trail, leadBlank, trailBlank, item, spelled, colon⟩ :=
    next_member opens layout offset rest
  have here := reads value isText (member_value_fits layout)
  obtain ⟨c, others, same, solid, _⟩ := here.starts
  obtain ⟨after, read⟩ := here.read (place + lead.length) (trail ++ rest) (ends_blank trailBlank ends)
  have pastLead : readEntry ⟨place, lead ++ (value ++ (trail ++ rest))⟩ =
      .ok (member.2, ⟨after, trail ++ rest⟩) := by
    rw [same] at read ⊢
    exact (skips.past_blank leadBlank solid place _).trans read
  refine ⟨after, trail, trailBlank, ?_⟩
  simp only [readMembers, item, spelled, colon, pastLead, bind, Except.bind]

theorem read_value_skips (rounds depth : Nat) : Skips (readValue rounds depth) := by
  intro cursor
  obtain ⟨containers, same⟩ := read_value_with rounds depth
  rw [same]
  simp only [readValueWith, skip_skip]

theorem read_value_array {rounds depth : Nat} {items : List Value} {offset after : Nat}
    {inside tail : List Char}
    (read : readItems (readValue rounds depth) rounds true [] ⟨offset + 1, inside⟩ =
      .ok (items, ⟨after, ']' :: tail⟩)) :
    readValue rounds (depth + 1) ⟨offset, '[' :: inside⟩ = .ok (.array items, ⟨after + 1, tail⟩) := by
  change (readItems (readValue rounds depth) rounds true [] ⟨offset + 1, inside⟩ >>= fun found =>
    (closeArray found.2).done >>= fun cursor => .ok (Value.array found.1, cursor)) = _
  rw [read]
  rfl

theorem read_value_object {rounds depth : Nat} {members : List (String × Value)}
    {offset after : Nat} {inside tail : List Char}
    (read : readMembers (readValue rounds depth) rounds true [] ⟨offset + 1, inside⟩ =
      .ok (members, ⟨after, '\x7d' :: tail⟩)) :
    readValue rounds (depth + 1) ⟨offset, '\x7b' :: inside⟩ =
      .ok (.object members, ⟨after + 1, tail⟩) := by
  change (readMembers (readValue rounds depth) rounds true [] ⟨offset + 1, inside⟩ >>= fun found =>
    (closeObject found.2).done >>= fun cursor => .ok (Value.object found.1, cursor)) = _
  rw [read]
  rfl

theorem ValueText.starts {depth : Nat} {value : Value} {text : List Char}
    (written : ValueText depth value text) : StartsItem text :=
  (passes_of_well_formed written.well_formed).starts

theorem read_literal_text {value : Value} {text : List Char} (starts : StartsItem text)
    (reads : ∀ containers offset tail,
      readValueWith containers ⟨offset, text ++ tail⟩ = .ok (value, ⟨offset + text.length, tail⟩))
    (rounds depth : Nat) : ReadsAs (readValue rounds depth) value text := by
  refine ⟨starts, ?_⟩
  intro offset tail _
  obtain ⟨containers, same⟩ := read_value_with rounds depth
  rw [same]
  exact ⟨_, reads containers offset tail⟩

theorem read_natural_text {n : Nat} (fits : n ≤ Text.maxWord) {text : List Char}
    (written : IntegerText n text) (starts : StartsItem text) (rounds depth : Nat) :
    ReadsAs (readValue rounds depth) (.number (.natural n)) text := by
  refine ⟨starts, ?_⟩
  intro offset tail ends
  obtain ⟨after, read⟩ := read_integer written fits ends offset
  obtain ⟨c, rest, rfl, digit⟩ := integer_text_starts written
  rw [List.cons_append] at read ⊢
  rw [read_value_of_digit rounds depth offset digit, read]
  exact ⟨after, rfl⟩

theorem read_string_text {s : String} {text : List Char} (spelled : StringText s text)
    (starts : StartsItem text) (rounds depth : Nat) :
    ReadsAs (readValue rounds depth) (.string s) text := by
  refine ⟨starts, ?_⟩
  intro offset tail _
  obtain ⟨body, spells, rfl⟩ := spelled
  obtain ⟨after, read⟩ := read_string_spelled spells (offset + 1) tail
  rw [quotedText, List.cons_append, List.append_assoc, List.singleton_append,
    read_value_of_string, read]
  exact ⟨after, rfl⟩

theorem read_array_text {written : Value → List Char → Prop} {items : List Value}
    {text : List Char} (layout : ArrayText written items text) {rounds depth : Nat}
    (enough : text.length ≤ rounds)
    (reads : ∀ item ∈ items, ∀ itemText, written item itemText → itemText.length ≤ rounds →
      ReadsAs (readValue rounds depth) item itemText) (starts : StartsItem text) :
    ReadsAs (readValue rounds (depth + 1)) (.array items) text := by
  refine ⟨starts, ?_⟩
  intro offset tail _
  have takes : ∀ item ∈ items, ∀ itemText, ItemText written item itemText →
      itemText.length ≤ text.length → TakesAs (readItems (readValue rounds depth)) item itemText := by
    intro item member itemText layout inside
    apply item_taken layout
    intro inner isText short
    exact reads item member inner isText (short.trans (inside.trans enough))
  obtain ⟨body, rfl, taken⟩ := enclosed_taken (items_close _) (Or.inl rfl) layout enough takes
  obtain ⟨after, read⟩ := taken (offset + 1) tail
  refine ⟨after + 1, ?_⟩
  rw [List.cons_append, List.append_assoc, List.singleton_append]
  exact read_value_array read

theorem read_object_text {written : Value → List Char → Prop} {members : List (String × Value)}
    {text : List Char} (layout : Enclosed '\x7b' '\x7d' (NamedText written) members text)
    {rounds depth : Nat} (enough : text.length ≤ rounds)
    (reads : ∀ member ∈ members, ∀ valueText, written member.2 valueText →
      valueText.length ≤ rounds → ReadsAs (readValue rounds depth) member.2 valueText)
    (starts : StartsItem text) :
    ReadsAs (readValue rounds (depth + 1)) (.object members) text := by
  refine ⟨starts, ?_⟩
  intro offset tail _
  have takes : ∀ member ∈ members, ∀ memberText, NamedText written member memberText →
      memberText.length ≤ text.length →
        TakesAs (readMembers (readValue rounds depth)) member memberText := by
    intro member isMember memberText layout inside
    apply member_taken (read_value_skips rounds depth) layout
    intro value isText short
    exact reads member isMember value isText (short.trans (inside.trans enough))
  obtain ⟨body, rfl, taken⟩ := enclosed_taken (members_close _) (Or.inr rfl) layout enough takes
  obtain ⟨after, read⟩ := taken (offset + 1) tail
  refine ⟨after + 1, ?_⟩
  rw [List.cons_append, List.append_assoc, List.singleton_append]
  exact read_value_object read

/-- A text of a value is read as that value, as long as the rounds are enough for its length. -/
theorem ValueText.reads {depth : Nat} {value : Value} {text : List Char}
    (written : ValueText depth value text) {rounds : Nat} (enough : text.length ≤ rounds) :
    ReadsAs (readValue rounds depth) value text := by
  have starts := written.starts
  induction written with
  | null => exact read_literal_text starts (fun _ _ _ => rfl) rounds _
  | true => exact read_literal_text starts (fun _ _ _ => rfl) rounds _
  | false => exact read_literal_text starts (fun _ _ _ => rfl) rounds _
  | natural fits written => exact read_natural_text fits written starts rounds _
  | string spelled => exact read_string_text spelled starts rounds _
  | array layout inner ih =>
      apply read_array_text layout enough _ starts
      intro item member text isText short
      exact ih item member text isText short (inner item member text isText).starts
  | object layout inner ih =>
      apply read_object_text layout enough _ starts
      intro member isMember text isText short
      exact ih member isMember text isText short (inner member isMember text isText).starts

def DocumentText (value : Value) (text : List Char) : Prop :=
  ∃ before inner after, text = before ++ (inner ++ after) ∧ Blank before ∧ Blank after ∧
    ValueText deepest value inner

theorem document_text_of_value {value : Value} {text : List Char}
    (written : ValueText deepest value text) : DocumentText value text :=
  ⟨[], text, [], (List.append_nil text).symm, blank_nil, blank_nil, written⟩

theorem read_document_text {value : Value} {text : List Char} (written : DocumentText value text) :
    readDocument text = .ok value := by
  obtain ⟨before, inner, after, rfl, blankBefore, blankAfter, isText⟩ := written
  have enough : inner.length ≤ roundsFor (before ++ (inner ++ after)) := by
    simp only [roundsFor, List.length_append]
    omega
  have inside := isText.reads enough
  have ends : Ends after := by
    have nothing : Ends [] := fun _ impossible => by contradiction
    have blank := ends_blank blankAfter nothing
    rwa [List.append_nil] at blank
  obtain ⟨place, read⟩ := inside.read (0 + before.length) after ends
  obtain ⟨c, others, same, solid, _⟩ := inside.starts
  have whole : readValue (roundsFor (before ++ (inner ++ after))) deepest
      ⟨0, before ++ (inner ++ after)⟩ = .ok (value, ⟨place, after⟩) := by
    rw [same] at read ⊢
    exact ((read_value_skips _ _).past_blank blankBefore solid 0 _).trans read
  rw [readDocument, whole]
  change (readEnd ⟨place, after⟩ >>= fun _ => .ok value) = _
  rw [read_end_blank blankAfter]
  rfl

end Retirement.Json
