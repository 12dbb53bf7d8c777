import Mathlib.Data.List.Basic
import Retirement.Command.Outcome

/-!
Lines of a listing. Every item of a listing is ended by a line feed, so that a listing has one line
for each item and one more for each line feed inside an item.
-/

namespace Retirement.Text

def lineFeeds (text : String) : Nat := text.toList.count '\n'

@[simp] theorem line_feeds_append (first second : String) :
    lineFeeds (first ++ second) = lineFeeds first + lineFeeds second := by
  rw [lineFeeds, String.toList_append, List.count_append]
  rfl

/-- What stands between line feeds; there is always a first part and a last one. -/
def lineParts (text : String) : List String := (text.toList.splitOn '\n').map String.ofList

/-- The lines of a text. A line feed ends its line, so that no line begins after the last one. -/
def linesOf (text : String) : List String :=
  let parts := lineParts text
  if parts.getLast? = some "" then parts.dropLast else parts

theorem line_parts_single {text : String} (oneLine : lineFeeds text = 0) :
    lineParts text = [text] := by
  have absent : ∀ c ∈ text.toList, (c == '\n') = false := by
    intro c member
    rw [beq_eq_false_iff_ne]
    rintro rfl
    exact List.count_eq_zero.mp oneLine member
  rw [lineParts, List.splitOn_eq_splitOnP, List.splitOnP_eq_singleton absent, List.map_singleton,
    String.ofList_toList]

theorem split_length (letters : List Char) :
    (letters.splitOn '\n').length = 1 + letters.count '\n' := by
  rw [List.splitOn_eq_splitOnP]
  induction letters with
  | nil => rfl
  | cons c cs ih =>
      rw [List.splitOnP_cons_eq_if_modifyHead, List.count_cons]
      split_ifs
      · rw [List.length_cons, ih, Nat.add_assoc]
      · rw [List.length_modifyHead, ih, Nat.add_zero]

theorem line_parts_length (text : String) : (lineParts text).length = 1 + lineFeeds text := by
  rw [lineParts, List.length_map, split_length]
  rfl

theorem line_parts_after_line (line rest : String) :
    lineParts (line ++ "\n" ++ rest) = lineParts line ++ lineParts rest := by
  have letters : (line ++ "\n" ++ rest).toList = line.toList ++ '\n' :: rest.toList := by
    simp [String.toList_append]
  have split :=
    @List.splitOnP_append_cons Char (fun c => c == '\n') line.toList rest.toList '\n' rfl
  simp only [lineParts, letters, List.splitOn_eq_splitOnP, split, List.map_append]

theorem split_after_start {start : List Char} (oneLine : '\n' ∉ start) (rest : List Char) :
    (start ++ rest).splitOn '\n' = (rest.splitOn '\n').modifyHead (start ++ ·) := by
  rw [List.splitOn_eq_splitOnP, List.splitOn_eq_splitOnP]
  induction start with
  | nil => exact (congrFun List.modifyHead_id _).symm
  | cons c cs ih =>
      rw [List.mem_cons, not_or] at oneLine
      have kept : ¬ (c == '\n') = true := fun same => oneLine.1 (beq_iff_eq.mp same).symm
      rw [List.cons_append, List.splitOnP_cons_eq_if_modifyHead, if_neg kept, ih oneLine.2,
        List.modifyHead_modifyHead]
      rfl

/-- What stands before the first line feed of a text begins the first part. -/
theorem line_parts_after_start {start : String} (oneLine : lineFeeds start = 0) (rest : String) :
    ∃ first later, lineParts (start ++ rest) = (start ++ first) :: later ∧
      later.length = lineFeeds rest := by
  have parts := line_parts_length rest
  have split := split_after_start (List.count_eq_zero.mp oneLine) rest.toList
  unfold lineParts at parts ⊢
  rw [String.toList_append, split]
  cases pieces : rest.toList.splitOn '\n' with
  | nil =>
      rw [pieces, List.map_nil, List.length_nil] at parts
      omega
  | cons first later =>
      refine ⟨String.ofList first, later.map String.ofList, ?_, ?_⟩
      · rw [List.modifyHead_cons, List.map_cons, String.ofList_append, String.ofList_toList]
      · rw [pieces, List.map_cons, List.length_cons] at parts
        omega

theorem line_parts_of_lines (items : List String) :
    lineParts (Command.lines items) = items.flatMap lineParts ++ [""] := by
  induction items with
  | nil => rfl
  | cons item items ih =>
      have first : Command.lines (item :: items) = item ++ "\n" ++ Command.lines items := by
        simp [Command.lines, String.join_cons]
      rw [first, line_parts_after_line, ih, List.flatMap_cons, List.append_assoc]

/-- A listing has the lines of its items and no others. -/
theorem lines_of_lines (items : List String) :
    linesOf (Command.lines items) = items.flatMap lineParts := by
  rw [linesOf, line_parts_of_lines, List.getLast?_concat, if_pos rfl, List.dropLast_concat]

/-- Items without line feeds are the lines of their listing. -/
theorem lines_of_single_lines {items : List String} (single : ∀ item ∈ items, lineFeeds item = 0) :
    linesOf (Command.lines items) = items := by
  rw [lines_of_lines]
  calc
    items.flatMap lineParts = items.flatMap fun item => [item] := by
      apply List.flatMap_congr
      intro item member
      exact line_parts_single (single item member)
    _ = items := List.flatMap_singleton' items

theorem length_le_lines (items : List String) :
    items.length ≤ (linesOf (Command.lines items)).length := by
  rw [lines_of_lines]
  induction items with
  | nil => exact Nat.zero_le _
  | cons item items ih =>
      rw [List.flatMap_cons, List.length_append, line_parts_length, List.length_cons]
      omega

/-- A listing has more lines than items as soon as one item has a line feed. -/
theorem lines_length_eq_iff (items : List String) :
    (linesOf (Command.lines items)).length = items.length ↔
      ∀ item ∈ items, lineFeeds item = 0 := by
  induction items with
  | nil => exact ⟨fun _ => nofun, fun _ => rfl⟩
  | cons item items ih =>
      have later := length_le_lines items
      rw [lines_of_lines] at ih later ⊢
      rw [List.forall_mem_cons, ← ih, List.flatMap_cons, List.length_append, line_parts_length,
        List.length_cons]
      omega

theorem line_feeds_of_intercalate {separator : String} (oneLine : lineFeeds separator = 0)
    {items : List String} (single : ∀ item ∈ items, lineFeeds item = 0) :
    lineFeeds (separator.intercalate items) = 0 := by
  induction items with
  | nil => rfl
  | cons item items ih =>
      obtain ⟨first, others⟩ := List.forall_mem_cons.mp single
      cases items with
      | nil => rw [String.intercalate_singleton, first]
      | cons second later =>
          rw [String.intercalate_cons_cons, line_feeds_append, line_feeds_append, first, oneLine,
            ih others]

theorem line_feeds_of_number (n : Nat) : lineFeeds (toString n) = 0 := by
  apply List.count_eq_zero.mpr
  intro member
  have digits : (toString n).toList = Nat.toDigits 10 n := Nat.toList_repr
  rw [digits] at member
  have isDigit := Nat.isDigit_of_mem_toDigits (by decide) (by decide) member
  contradiction

end Retirement.Text
