import Retirement.Proofs.Json.Items
import Retirement.Proofs.Trace.Rows
import Retirement.Trace.File

/-!
Loading traces. A text of rows is loaded as these rows in program order, in whatever way they are
spelled. A text of objects is refused as soon as one of them lacks a field or has one twice.
-/

namespace Retirement.Trace

open Json

theorem object_starts_item {Name : Type} {spelled : Name → List Char → Prop}
    {members : List (Name × List Char)} {text : List Char}
    (layout : ObjectText spelled members text) : StartsItem text := by
  obtain ⟨body, rfl, _⟩ := layout
  exact ⟨'\x7b', _, rfl, by decide, by decide⟩

theorem row_text_starts_item {row : Row} {text : List Char} (written : RowText row text) :
    StartsItem text := by
  obtain ⟨members, object, _⟩ := written
  exact object_starts_item object

/-- The rows of an array are read between its brackets, and nothing may follow. -/
theorem read_rows_of_array {before : List Char} (blank : Blank before) (body after : List Char) :
    ∃ offset, readRows (before ++ ('[' :: (body ++ [']']) ++ after)) =
      (readItems (readRow (roundsFor (before ++ ('[' :: (body ++ [']']) ++ after))))
          (roundsFor (before ++ ('[' :: (body ++ [']']) ++ after))) true []
          ⟨offset, body ++ ']' :: after⟩ >>= fun (rows, cursor) => do
        readEnd (← (closeArray cursor).done)
        .ok rows) := by
  refine ⟨0 + before.length + 1, ?_⟩
  rw [readRows, List.cons_append, skip_blank blank (by decide), List.append_assoc]
  rfl

theorem read_rows_of_text {rows : List Row} (fits : ∀ row ∈ rows, row.Fits) {text : List Char}
    (written : ListText RowText rows text) : readRows text = .ok rows := by
  obtain ⟨before, array, after, rfl, blankBefore, blankAfter, layout⟩ := written
  have enough : 2 * array.length ≤ roundsFor (before ++ (array ++ after)) := by
    simp only [roundsFor, List.length_append]
    omega
  have takes : ∀ row ∈ rows, ∀ text, ItemText RowText row text → text.length ≤ array.length →
      TakesAs (readItems (readRow (roundsFor (before ++ (array ++ after))))) row text := by
    intro row member text layout inside
    apply item_taken layout
    intro item isText short
    refine ⟨row_text_starts_item isText, ?_⟩
    intro offset tail _
    exact read_row_text (fits row member) isText (by omega) offset tail
  have rounds : array.length ≤ roundsFor (before ++ (array ++ after)) := by omega
  obtain ⟨body, rfl, taken⟩ := enclosed_taken (items_close _) (Or.inl rfl) layout rounds takes
  obtain ⟨offset, reads⟩ := read_rows_of_array blankBefore body after
  obtain ⟨place, read⟩ := taken offset after
  rw [reads, read]
  change (readEnd ⟨place + 1, after⟩ >>= fun _ => .ok rows) = _
  rw [read_end_blank blankAfter]
  rfl

theorem load_of_text {rows : List Row} (fits : ∀ row ∈ rows, row.Fits) {text : String}
    (written : ListText RowText rows text.toList) : load text = .ok (programOrder rows) := by
  rw [load, read_rows_of_text fits written]

theorem no_object_is_faulty {objects : List (List (String × List Char))} {text : List Char}
    (written : ListText AnyObjectText objects text) {rows : List Row}
    (read : readRows text = .ok rows) : ∀ members ∈ objects, ¬ Faulty members := by
  obtain ⟨before, array, after, rfl, blankBefore, blankAfter, ⟨body, rfl, content⟩⟩ := written
  obtain ⟨offset, reads⟩ := read_rows_of_array blankBefore body after
  generalize enough : roundsFor (before ++ ('[' :: (body ++ [']']) ++ after)) = rounds at reads
  simp only [roundsFor, List.length_append, List.length_cons] at enough
  rw [reads] at read
  obtain ⟨⟨found, cursor⟩, items, _⟩ := ok_of_bind read
  rcases content with ⟨rfl, _⟩ | layout
  · intro members absent
    contradiction
  · have starts : ∀ members item, AnyObjectText members item → StartsItem item := by
      intro members item object
      exact object_starts_item object.1
    have sound : ∀ members item, AnyObjectText members item → item.length ≤ body.length →
        ∀ offset tail row cursor, readRow rounds ⟨offset, item ++ tail⟩ = .ok (row, cursor) →
          cursor.rest = tail ∧ ¬ Faulty members := by
      intro members item object short offset tail row cursor one
      exact read_row_is_sound object (by omega) one
    exact all_items_hold starts sound layout le_rfl Opens.first items

theorem faulty_object_refused {objects : List (List (String × List Char))} {text : String}
    (written : ListText AnyObjectText objects text.toList)
    (faulty : ∃ members ∈ objects, Faulty members) :
    ∃ refusal, load text = .error (.json text refusal) := by
  unfold load
  cases read : readRows text.toList with
  | error refusal => exact ⟨refusal, rfl⟩
  | ok rows =>
      obtain ⟨members, isObject, isFaulty⟩ := faulty
      exact absurd isFaulty (no_object_is_faulty written read members isObject)

end Retirement.Trace
