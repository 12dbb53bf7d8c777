import Retirement.Proofs.Json.Values

/-!
Reading what stands between brackets. A loop that takes one entry a round takes them all in their
order, and arrays are read by such a loop, whatever their items are; and where all the items have been
taken, each of them has been.
-/

namespace Retirement.Json

def StartsItem (item : List Char) : Prop :=
  ∃ c rest, item = c :: rest ∧ isSpace c = false ∧ c ≠ ']'

structure ReadsAs {Entry : Type} (readItem : Reader Entry) (entry : Entry) (item : List Char) :
    Prop where
  starts : StartsItem item
  read : ∀ offset tail, Ends tail →
    ∃ after, readItem ⟨offset, item ++ tail⟩ = .ok (entry, ⟨after, tail⟩)

section

variable {Entry : Type}

/-- A loop over the entries between two brackets. It has so many rounds left, still stands before the
first entry or does not, and gives the entries that it has found, the latest of which stand first. -/
abbrev EntryLoop (Entry : Type) := Nat → Bool → List Entry → Reader (List Entry)

def ClosesAt (closing : Char) (loop : EntryLoop Entry) : Prop :=
  ∀ ⦃gap : List Char⦄, Blank gap → ∀ left first found offset tail,
    loop (left + 1) first found ⟨offset, gap ++ closing :: tail⟩ =
      .ok (found.reverse, ⟨offset + gap.length, closing :: tail⟩)

/-- One round of the loop takes the entry from its text, whatever goes on after it. -/
def TakesAs (loop : EntryLoop Entry) (entry : Entry) (text : List Char) : Prop :=
  ∀ ⦃first : Bool⦄ ⦃before : List Char⦄, Opens first before →
    ∀ (left : Nat) (found : List Entry) (offset : Nat) ⦃rest : List Char⦄, Ends rest →
      ∃ after trail, Blank trail ∧
        loop (left + 1) first found ⟨offset, before ++ (text ++ rest)⟩ =
          loop left false (entry :: found) ⟨after, trail ++ rest⟩

variable {loop : EntryLoop Entry} {opening closing : Char} (closes : ClosesAt closing loop)
  (bracket : closing = ']' ∨ closing = '\x7d') {written : Entry → List Char → Prop}
  {entries : List Entry}

include closes bracket

theorem separated_taken {body : List Char} (layout : Separated written entries body) {limit : Nat}
    (takes : ∀ entry ∈ entries, ∀ text, written entry text → text.length ≤ limit →
      TakesAs loop entry text)
    (fits : body.length ≤ limit) {left : Nat} (turns : entries.length ≤ left) {first : Bool}
    {before : List Char} (opens : Opens first before) (found : List Entry) (offset : Nat)
    (tail : List Char) :
    ∃ after, loop (left + 1) first found ⟨offset, before ++ (body ++ closing :: tail)⟩ =
      .ok (found.reverse ++ entries, ⟨after, closing :: tail⟩) := by
  induction layout generalizing left first before found offset with
  | @last entry text isText =>
      have here := takes entry List.mem_cons_self text isText fits
      have ends : Ends (closing :: tail) := ends_cons (Or.inr bracket) tail
      obtain ⟨after, trail, trailBlank, step⟩ := here opens left found offset ends
      obtain ⟨left, rfl⟩ : ∃ less, left = less + 1 := Nat.exists_eq_add_of_le' turns
      refine ⟨after + trail.length, ?_⟩
      rw [step, ← List.reverse_cons]
      exact closes trailBlank left false (entry :: found) after tail
  | @more entry entries text body isText rest ih =>
      rw [List.length_append, List.length_cons] at fits
      obtain ⟨takesFirst, takesRest⟩ := List.forall_mem_cons.mp takes
      have here := takesFirst text isText (by omega)
      have ends : Ends (',' :: (body ++ closing :: tail)) := ends_cons (Or.inl rfl) _
      obtain ⟨after, trail, trailBlank, step⟩ := here opens left found offset ends
      obtain ⟨left, rfl⟩ : ∃ less, left = less + 1 :=
        Nat.exists_eq_add_of_le' (Nat.one_le_of_lt turns)
      obtain ⟨reached, readRest⟩ := ih takesRest (by omega) (Nat.le_of_succ_le_succ turns)
        (Opens.later trailBlank) (entry :: found) after
      refine ⟨reached, ?_⟩
      simp only [List.append_assoc, List.cons_append, List.reverse_cons, List.nil_append]
        at readRest ⊢
      rw [step]
      exact readRest

/-- All the entries between two brackets are taken one after the other, as long as the rounds are
enough for the length of the text. -/
theorem enclosed_taken {text : List Char} (layout : Enclosed opening closing written entries text)
    {rounds : Nat} (enough : text.length ≤ rounds)
    (takes : ∀ entry ∈ entries, ∀ entryText, written entry entryText →
      entryText.length ≤ text.length → TakesAs loop entry entryText) :
    ∃ body, text = opening :: (body ++ [closing]) ∧ ∀ offset tail, ∃ after,
      loop rounds true [] ⟨offset, body ++ closing :: tail⟩ =
        .ok (entries, ⟨after, closing :: tail⟩) := by
  obtain ⟨body, rfl, content⟩ := layout
  refine ⟨body, rfl, ?_⟩
  rw [List.length_cons, List.length_append, List.length_singleton] at enough takes
  obtain ⟨left, rfl⟩ : ∃ less, rounds = less + 1 := ⟨rounds - 1, by omega⟩
  intro offset tail
  rcases content with ⟨rfl, blank⟩ | separated
  · exact ⟨_, closes blank left true [] offset tail⟩
  · have count := separated_count separated
    exact separated_taken closes bracket separated takes (by omega) (by omega) Opens.first [] offset
      tail

end

section

variable {Entry : Type} (readItem : Reader Entry)

/-- One round of reading reads one item. -/
theorem read_next_item {item lead : List Char} (starts : StartsItem item) (leadBlank : Blank lead)
    {first : Bool} {before : List Char} (opens : Opens first before) (left : Nat)
    (found : List Entry) (offset : Nat) (rest : List Char) :
    ∃ place, readItems readItem (left + 1) first found ⟨offset, before ++ (lead ++ (item ++ rest))⟩ =
      (readItem ⟨place, item ++ rest⟩ >>= fun (entry, cursor) =>
        readItems readItem left false (entry :: found) cursor) := by
  obtain ⟨c, others, rfl, solid, other⟩ := starts
  obtain ⟨place, opened⟩ := next_item_opens opens leadBlank solid other offset (others ++ rest)
  refine ⟨place, ?_⟩
  rw [List.cons_append, readItems, opened]
  rfl

theorem items_close : ClosesAt ']' (readItems readItem) := by
  intro gap blank left first found offset tail
  rw [readItems, next_item_closes blank]
  rfl

variable {readItem}

theorem item_taken {written : Entry → List Char → Prop} {entry : Entry} {text : List Char}
    (layout : ItemText written entry text)
    (reads : ∀ item, written entry item → item.length ≤ text.length →
      ReadsAs readItem entry item) : TakesAs (readItems readItem) entry text := by
  obtain @⟨lead, item, trail, leadBlank, itemWritten, trailBlank⟩ := layout
  simp only [List.length_append] at reads
  intro first before opens left found offset rest ends
  have here := reads item itemWritten (by omega)
  obtain ⟨place, step⟩ :=
    read_next_item readItem here.starts leadBlank opens left found offset (trail ++ rest)
  obtain ⟨after, read⟩ := here.read place (trail ++ rest) (ends_blank trailBlank ends)
  refine ⟨after, trail, trailBlank, ?_⟩
  rw [List.append_assoc, List.append_assoc, step, read]
  rfl

/-- If an item is only ever read when something holds of it, and is read to its end then, it holds of
all the items of an array that is read. -/
theorem all_items_hold {Read : Type} {readItem : Reader Read} {written : Entry → List Char → Prop}
    {limit : Nat} (starts : ∀ entry item, written entry item → StartsItem item)
    {Holds : Entry → Prop}
    (sound : ∀ entry item, written entry item → item.length ≤ limit →
      ∀ offset tail a cursor, readItem ⟨offset, item ++ tail⟩ = .ok (a, cursor) →
        cursor.rest = tail ∧ Holds entry)
    {entries : List Entry} {body : List Char}
    (layout : Separated (ItemText written) entries body) (fits : body.length ≤ limit) {left : Nat}
    {first : Bool} {before : List Char} (opens : Opens first before) {found read : List Read}
    {offset : Nat} {tail : List Char} {cursor : Cursor}
    (reads : readItems readItem left first found ⟨offset, before ++ (body ++ tail)⟩ =
      .ok (read, cursor)) : ∀ entry ∈ entries, Holds entry := by
  induction layout generalizing left first before found offset with
  | @last entry text layout =>
      obtain @⟨lead, item, trail, leadBlank, itemWritten, trailBlank⟩ := layout
      simp only [List.length_append] at fits
      cases left with
      | zero => contradiction
      | succ left =>
          obtain ⟨place, step⟩ := read_next_item readItem (starts entry item itemWritten) leadBlank
            opens left found offset (trail ++ tail)
          rw [List.append_assoc, List.append_assoc, step] at reads
          obtain ⟨⟨a, after⟩, one, _⟩ := ok_of_bind reads
          rw [List.forall_mem_singleton]
          exact (sound entry item itemWritten (by omega) _ _ a after one).2
  | @more entry entries text body layout rest ih =>
      obtain @⟨lead, item, trail, leadBlank, itemWritten, trailBlank⟩ := layout
      simp only [List.length_append, List.length_cons] at fits
      cases left with
      | zero => contradiction
      | succ left =>
          obtain ⟨place, step⟩ := read_next_item readItem (starts entry item itemWritten) leadBlank
            opens left found offset (trail ++ ',' :: (body ++ tail))
          simp only [List.append_assoc, List.cons_append] at reads
          rw [step] at reads
          obtain ⟨⟨a, after⟩, one, later⟩ := ok_of_bind reads
          obtain ⟨stops, holds⟩ := sound entry item itemWritten (by omega) _ _ a after one
          obtain ⟨reached, _⟩ := after
          obtain rfl := stops
          simp only [List.append_cons trail ',' (body ++ tail)] at later
          exact List.forall_mem_cons.mpr ⟨holds, ih (by omega) (Opens.later trailBlank) later⟩

end

end Retirement.Json
