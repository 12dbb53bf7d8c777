import Mathlib.Data.List.Basic
import Retirement.Task

/-!
What building makes of rows. There is one task for each row, in the same order, and its number is
the position of the row. The only errors are those of rows with an empty interval.
-/

namespace Retirement

open Instruction (Operands)

def taskAt (row : Row) (position : Nat) : Task :=
  Task.ofRow position row (Operands.ofText row.mnemonic.toList)

theorem build_from_tasks (checkOrder : Bool) (index : Nat) (lastPc : Option Nat)
    (rows : List Row) :
    (buildFrom checkOrder index lastPc rows).tasks =
      (rows.zipIdx index).map fun entry => taskAt entry.1 entry.2 := by
  induction rows generalizing index lastPc with
  | nil => rfl
  | cons row rest ih =>
      rw [List.zipIdx_cons, List.map_cons, ← ih (index + 1) (row.pc <|> lastPc)]
      rfl

theorem build_tasks_getElem (checkOrder : Bool) (rows : List Row) (position : Nat) :
    (buildTasks checkOrder rows).tasks[position]? =
      rows[position]?.map fun row => taskAt row position := by
  rw [buildTasks, build_from_tasks, List.getElem?_map, List.getElem?_zipIdx, Option.map_map]
  simp [Function.comp_def]

theorem row_of_built_task {checkOrder : Bool} {rows : List Row} {task : Task}
    (member : task ∈ (buildTasks checkOrder rows).tasks) :
    ∃ position row, rows[position]? = some row ∧ task = taskAt row position := by
  obtain ⟨position, found⟩ := List.mem_iff_getElem?.mp member
  rw [build_tasks_getElem, Option.map_eq_some_iff] at found
  obtain ⟨row, isRow, same⟩ := found
  exact ⟨position, row, isRow, same.symm⟩

theorem built_rows (checkOrder : Bool) (rows : List Row) :
    (buildTasks checkOrder rows).tasks.map Task.row = rows := by
  rw [buildTasks, build_from_tasks, List.map_map]
  exact List.zipIdx_map_fst 0 rows

theorem build_tasks_length (checkOrder : Bool) (rows : List Row) :
    (buildTasks checkOrder rows).tasks.length = rows.length := by
  rw [buildTasks, build_from_tasks, List.length_map, List.length_zipIdx]

def Numbered (tasks : List Task) : Prop :=
  ∀ (position : Nat) (task : Task), tasks[position]? = some task → task.id = position

theorem build_tasks_numbered (checkOrder : Bool) (rows : List Row) :
    Numbered (buildTasks checkOrder rows).tasks := by
  intro position task found
  rw [build_tasks_getElem, Option.map_eq_some_iff] at found
  obtain ⟨row, _, rfl⟩ := found
  rfl

theorem build_tasks_without_lanes (checkOrder : Bool) (rows : List Row) :
    ∀ task ∈ (buildTasks checkOrder rows).tasks, task.lane = none := by
  intro task member
  rw [buildTasks, build_from_tasks, List.mem_map] at member
  obtain ⟨entry, _, rfl⟩ := member
  rfl

theorem finding_is_error_iff (index : Nat) (row : Row) (finding : Finding) :
    (finding.diagnostic index row).IsError ↔ finding = .emptyInterval := by
  cases finding <;> simp [Finding.diagnostic, Diagnostic.IsError]

theorem finding_code (index : Nat) (row : Row) (finding : Finding) :
    (finding.diagnostic index row).code ≠ some .brokenLanes ∧
      (finding.diagnostic index row).code ≠ some .brokenEdges := by
  cases finding <;> simp [Finding.diagnostic]

theorem order_finding_is_out_of_order {lastPc pc : Option Nat} {finding : Finding}
    (found : finding ∈ (orderFinding lastPc pc).toList) :
    ∃ address previous, finding = .outOfOrder address previous := by
  unfold orderFinding at found
  split at found
  · split_ifs at found
    · exact ⟨_, _, List.mem_singleton.mp found⟩
    · simp at found
  · simp at found

theorem empty_interval_found_iff (checkOrder : Bool) (lastPc : Option Nat) (row : Row)
    (operands : Operands) :
    Finding.emptyInterval ∈ rowFindings checkOrder lastPc row operands ↔
      row.interval.IsEmpty := by
  have notOrder : Finding.emptyInterval ∉ (orderFinding lastPc row.pc).toList := by
    intro found
    obtain ⟨_, _, impossible⟩ := order_finding_is_out_of_order found
    cases impossible
  rw [rowFindings, List.mem_append, List.mem_append]
  split_ifs <;> simp_all

theorem operand_found_iff (checkOrder : Bool) (lastPc : Option Nat) (row : Row)
    (operands : Operands) (issue : Instruction.Issue) :
    Finding.operand issue ∈ rowFindings checkOrder lastPc row operands ↔
      issue ∈ operands.issues := by
  have notOrder : Finding.operand issue ∉ (orderFinding lastPc row.pc).toList := by
    intro found
    obtain ⟨_, _, impossible⟩ := order_finding_is_out_of_order found
    cases impossible
  rw [rowFindings, List.mem_append, List.mem_append]
  split_ifs <;> simp_all

theorem has_errors_append (first second : List Diagnostic) :
    hasErrors (first ++ second) = (hasErrors first || hasErrors second) :=
  List.any_append

theorem row_has_errors_iff (checkOrder : Bool) (index : Nat) (lastPc : Option Nat) (row : Row)
    (operands : Operands) :
    hasErrors ((rowFindings checkOrder lastPc row operands).map (Finding.diagnostic index row)) =
      true ↔ row.interval.IsEmpty := by
  rw [← empty_interval_found_iff checkOrder lastPc row operands, hasErrors, List.any_map,
    List.any_eq_true]
  simp only [Function.comp_apply, decide_eq_true_eq, finding_is_error_iff]
  exact exists_eq_right

theorem build_from_has_errors_iff (checkOrder : Bool) (index : Nat) (lastPc : Option Nat)
    (rows : List Row) :
    hasErrors (buildFrom checkOrder index lastPc rows).diagnostics = true ↔
      ∃ row ∈ rows, row.interval.IsEmpty := by
  induction rows generalizing index lastPc with
  | nil => simp [buildFrom, hasErrors]
  | cons row rest ih =>
      rw [buildFrom, has_errors_append, Bool.or_eq_true, row_has_errors_iff, ih]
      simp

theorem build_from_diagnostic (checkOrder : Bool) (index : Nat) (lastPc : Option Nat)
    (rows : List Row) {d : Diagnostic}
    (member : d ∈ (buildFrom checkOrder index lastPc rows).diagnostics) :
    ∃ position row last, rows[position]? = some row ∧
      ∃ finding ∈ rowFindings checkOrder last row (Operands.ofText row.mnemonic.toList),
        d = Finding.diagnostic (index + position) row finding := by
  induction rows generalizing index lastPc with
  | nil => simp [buildFrom] at member
  | cons row rest ih =>
      rcases List.mem_append.mp member with here | later
      · obtain ⟨finding, found, same⟩ := List.mem_map.mp here
        exact ⟨0, row, lastPc, rfl, finding, found, same.symm⟩
      · obtain ⟨position, other, last, isRow, finding, found, same⟩ := ih _ _ later
        rw [Nat.add_right_comm] at same
        exact ⟨position + 1, other, last, isRow, finding, found, same⟩

end Retirement
