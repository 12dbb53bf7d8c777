import Retirement.Proofs.Command.ExitCodes
import Retirement.Proofs.Task.Registers

/-!
The lines of a task listing. Every task is written on a line of its own, but with its mnemonic as the
trace has it: a line feed in a mnemonic breaks the line of its task, and nothing else can.
-/

namespace Retirement

open Instruction (IsWord)
open Text (lineFeeds lineParts linesOf)

theorem line_feeds_of_unit_name (u : ExecUnit) : lineFeeds u.name = 0 := by
  cases u <;> decide

theorem line_feeds_of_class_name (c : Instruction.OpClass) : lineFeeds c.name = 0 := by
  cases c <;> decide

theorem line_feeds_of_interval (interval : Interval) : lineFeeds interval.display = 0 := by
  simp only [Interval.display, Text.line_feeds_append, Text.line_feeds_of_number]
  rfl

namespace Task

theorem display_starts_with_number (task : Task) :
    ∃ body, task.display = "#" ++ toString task.id ++ " " ++ body := by
  simp only [display, displayId, String.append_assoc]
  exact ⟨_, rfl⟩

/-- Only the mnemonic of a task can break its line. -/
theorem line_feeds_of_display {task : Task}
    (words : ∀ register ∈ task.destination.toList ++ task.sources, IsWord register) :
    lineFeeds task.display = lineFeeds task.mnemonic := by
  obtain ⟨destinations, sources⟩ := List.forall_mem_append.mp words
  have read : lineFeeds (if task.sources.isEmpty then "" else
      " use=" ++ ",".intercalate task.sources) = 0 := by
    split_ifs
    · rfl
    · rw [Text.line_feeds_append, Text.line_feeds_of_intercalate rfl fun register member =>
        (sources register member).on_one_line]
      rfl
  have space : lineFeeds " " = 0 := rfl
  have opening : lineFeeds " [" = 0 := rfl
  have closing : lineFeeds "]" = 0 := rfl
  have mark : lineFeeds "#" = 0 := rfl
  simp only [display, displayId, Text.line_feeds_append, Text.line_feeds_of_number, read, space,
    opening, closing, mark, line_feeds_of_unit_name, line_feeds_of_class_name,
    line_feeds_of_interval, Nat.zero_add, Nat.add_zero]
  -- What is left beside the mnemonic is the destination, if there is one.
  cases destination : task.destination with
  | none => rfl
  | some register =>
      rw [destination, Option.toList_some, List.forall_mem_singleton] at destinations
      rw [Text.line_feeds_append, destinations.on_one_line]
      rfl

/-- A task begins with its number, and it has one line more than its mnemonic has line feeds. -/
theorem line_parts_of_display {task : Task}
    (words : ∀ register ∈ task.destination.toList ++ task.sources, IsWord register) :
    ∃ first later, lineParts task.display = ("#" ++ toString task.id ++ " " ++ first) :: later ∧
      later.length = lineFeeds task.mnemonic := by
  have single : lineFeeds ("#" ++ toString task.id ++ " ") = 0 := by
    rw [Text.line_feeds_append, Text.line_feeds_append, Text.line_feeds_of_number]
    rfl
  obtain ⟨body, shown⟩ := task.display_starts_with_number
  have feeds := line_feeds_of_display words
  rw [shown, Text.line_feeds_append, single, Nat.zero_add] at feeds
  rw [shown, ← feeds]
  exact Text.line_parts_after_start single body

end Task

namespace Command

/-- Every task has one line, and the lines are numbered from zero on. -/
def OneLineEach (listing : List String) (tasks : List Task) : Prop :=
  listing.length = tasks.length ∧
    ∀ (position : Nat) (line : String), listing[position]? = some line →
      ∃ rest, line = "#" ++ toString position ++ " " ++ rest

theorem one_line_each_iff {tasks : List Task} (numbered : Numbered tasks)
    (words : ∀ task ∈ tasks, ∀ register ∈ task.destination.toList ++ task.sources,
      IsWord register) :
    OneLineEach (linesOf (lines (tasks.map Task.display))) tasks ↔
      ∀ task ∈ tasks, lineFeeds task.mnemonic = 0 := by
  constructor
  · rintro ⟨count, _⟩ task member
    rw [← List.length_map Task.display, Text.lines_length_eq_iff] at count
    rw [← Task.line_feeds_of_display (words task member)]
    exact count task.display (List.mem_map_of_mem member)
  · intro unbroken
    have single : ∀ item ∈ tasks.map Task.display, lineFeeds item = 0 := by
      rw [List.forall_mem_map]
      intro task member
      rw [Task.line_feeds_of_display (words task member), unbroken task member]
    rw [Text.lines_of_single_lines single]
    refine ⟨List.length_map _, ?_⟩
    intro position line found
    rw [List.getElem?_map, Option.map_eq_some_iff] at found
    obtain ⟨task, isTask, rfl⟩ := found
    rw [← numbered position task isTask]
    exact task.display_starts_with_number

theorem Invocation.Finishes.lists_tasks {invocation : Invocation} {text : String}
    {timeline : Timeline} (finishes : invocation.Finishes text timeline)
    (listing : invocation.emit = .tasks) :
    ∃ rows, Trace.load text = .ok rows ∧
      timeline.tasks = (buildTasks invocation.checkOrder rows).tasks ∧
      (invocation.runText text).output = lines (timeline.tasks.map Task.display) := by
  obtain ⟨rows, loaded, rfl, written⟩ := finishes.output listing Emit.noConfusion
  refine ⟨rows, loaded, ?_, ?_⟩
  · rw [timeline, listing]
    rfl
  · exact written

/-- A task listing has the tasks of the trace in program order, each beginning with its number on a new
line. A task takes one line more than its mnemonic has line feeds, so that each has exactly one line if
and only if no mnemonic has a line feed. -/
theorem task_lines_break_in_mnemonics_only {invocation : Invocation} {text : String}
    {timeline : Timeline} (listing : invocation.emit = .tasks)
    (finishes : invocation.Finishes text timeline) :
    let output := (invocation.runText text).output
    Trace.load text = .ok (timeline.tasks.map Task.row) ∧
      linesOf output = timeline.tasks.flatMap (fun task => lineParts task.display) ∧
      (∀ (position : Nat) (task : Task), timeline.tasks[position]? = some task →
        ∃ first later, lineParts task.display = ("#" ++ toString position ++ " " ++ first) :: later ∧
          later.length = lineFeeds task.mnemonic) ∧
      (OneLineEach (linesOf output) timeline.tasks ↔
        ∀ task ∈ timeline.tasks, lineFeeds task.mnemonic = 0) := by
  obtain ⟨rows, loaded, built, written⟩ := finishes.lists_tasks listing
  have numbered : Numbered timeline.tasks := by
    rw [built]
    exact build_tasks_numbered invocation.checkOrder rows
  have words : ∀ task ∈ timeline.tasks, ∀ register ∈ task.destination.toList ++ task.sources,
      IsWord register := by
    rw [built]
    exact fun task member => built_registers_are_words member
  simp only [written]
  refine ⟨?_, ?_, ?_, one_line_each_iff numbered words⟩
  · rw [loaded, built, built_rows]
  · rw [Text.lines_of_lines, List.flatMap_map]
  · intro position task found
    rw [← numbered position task found]
    exact Task.line_parts_of_display (words task (List.mem_of_getElem? found))

/-- Without line feeds the second of two tasks is the second line. -/
theorem unbroken_tasks_have_one_line_each :
    let rows : List Row := [⟨"addi a0,a1,1", .scalar, 0, 1, none⟩, ⟨"nop", .scalar, 1, 2, none⟩]
    let command : Invocation := ⟨"trace.json", .tasks, .all, true, false⟩
    ∃ timeline, command.Finishes (Trace.write rows) timeline ∧
      OneLineEach (linesOf (command.runText (Trace.write rows)).output) timeline.tasks ∧
      timeline.tasks.map Task.display =
        ["#0 scalar [0, 1) addi a0,a1,1 [arithmetic] def=a0 use=a1,1",
          "#1 scalar [1, 2) nop [unclassified]"] := by
  intro rows command
  have fits : ∀ row ∈ rows, row.Fits := by decide
  have runs : command.emit ≠ .buildInfo := Emit.noConfusion
  have finishes := Invocation.finishes_written runs fits (by decide) (by decide)
  obtain ⟨_, _, _, single⟩ := task_lines_break_in_mnemonics_only rfl finishes
  exact ⟨_, finishes, single.mpr (by decide), by decide⟩

/-- The mnemonic of the first of two tasks ends with a line feed. What comes behind the mnemonic is then
a line of its own, which has no number, and the second task is on the third line. -/
theorem a_line_feed_breaks_a_task :
    let rows : List Row :=
      [⟨"addi a0,a1,1\n", .scalar, 0, 1, none⟩, ⟨"nop", .scalar, 1, 2, none⟩]
    let command : Invocation := ⟨"trace.json", .tasks, .all, true, false⟩
    ∃ timeline, command.Finishes (Trace.write rows) timeline ∧ timeline.tasks.length = 2 ∧
      linesOf (command.runText (Trace.write rows)).output =
        ["#0 scalar [0, 1) addi a0,a1,1", " [arithmetic] def=a0 use=a1,1",
          "#1 scalar [1, 2) nop [unclassified]"] ∧
      ¬ OneLineEach (linesOf (command.runText (Trace.write rows)).output) timeline.tasks := by
  intro rows command
  have fits : ∀ row ∈ rows, row.Fits := by decide
  have runs : command.emit ≠ .buildInfo := Emit.noConfusion
  have finishes := Invocation.finishes_written runs fits (by decide) (by decide)
  have shown : (command.timeline rows).tasks.map Task.display =
      ["#0 scalar [0, 1) addi a0,a1,1\n [arithmetic] def=a0 use=a1,1",
        "#1 scalar [1, 2) nop [unclassified]"] := by decide
  have twoTasks : (command.timeline rows).tasks.length = 2 := by decide
  obtain ⟨_, _, _, written⟩ := finishes.lists_tasks rfl
  have listed : linesOf (command.runText (Trace.write rows)).output =
      ["#0 scalar [0, 1) addi a0,a1,1", " [arithmetic] def=a0 use=a1,1",
        "#1 scalar [1, 2) nop [unclassified]"] := by
    rw [written, shown]
    decide
  have broken : ¬ OneLineEach (linesOf (command.runText (Trace.write rows)).output)
      (command.timeline rows).tasks := by
    rintro ⟨count, _⟩
    rw [listed, twoTasks] at count
    exact absurd count (Nat.succ_ne_self 2)
  exact ⟨_, finishes, twoTasks, listed, broken⟩

end Command

end Retirement
