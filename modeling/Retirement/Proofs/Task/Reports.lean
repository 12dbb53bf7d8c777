import Retirement.Proofs.Ordering
import Retirement.Proofs.Task.OrderCheck

/-!
What building says of each row, told without a scan. While it goes through the rows, building remembers
the last address that it has seen. What it says of a row is nevertheless settled by the row and by the
nearest row before it that has an address: that address is what it remembers there, across rows without
one and after a descent as well.
-/

namespace Retirement

open Instruction (Operands)

def addressAt (rows : List Row) (position : Nat) : Option Nat := rows[position]?.bind Row.pc

/-- The address of the nearest row before a position that has one. -/
def addressBefore (rows : List Row) (position : Nat) : Option Nat :=
  (List.range position).reverse.findSome? (addressAt rows)

def reportAt (checkOrder : Bool) (rows : List Row) (entry : Row × Nat) : List Diagnostic :=
  (rowFindings checkOrder (addressBefore rows entry.2) entry.1
    (Operands.ofText entry.1.mnemonic.toList)).map (Finding.diagnostic entry.2 entry.1)

theorem address_at_row {rows : List Row} {position : Nat} {row : Row}
    (found : rows[position]? = some row) : addressAt rows position = row.pc := by
  rw [addressAt, found, Option.bind_some]

/-- Where building has come to a position, it remembers the address before it. -/
theorem build_from_reports (checkOrder : Bool) {rows rest : List Row} {position : Nat}
    (split : rows.drop position = rest) :
    (buildFrom checkOrder position (addressBefore rows position) rest).diagnostics =
      (rest.zipIdx position).flatMap (reportAt checkOrder rows) := by
  induction rest generalizing position with
  | nil => rfl
  | cons row rest ih =>
      obtain ⟨found, later⟩ := drop_eq_cons split
      have remembered :
          addressBefore rows (position + 1) = (row.pc <|> addressBefore rows position) := by
        rw [← address_at_row found]
        exact last_found_succ (addressAt rows) position
      rw [buildFrom, List.zipIdx_cons, List.flatMap_cons, ← remembered, ih later]
      rfl

/-- The row at the position has an address, and the nearest row before it that has one has a higher
one. -/
def GoesDown (rows : List Row) (position : Nat) : Prop :=
  ∃ earlier previous pc, earlier < position ∧ addressAt rows earlier = some previous ∧
    (∀ between, earlier < between → between < position → addressAt rows between = none) ∧
    addressAt rows position = some pc ∧ pc < previous

theorem goes_down_iff {rows : List Row} {position : Nat} :
    GoesDown rows position ↔
      (orderFinding (addressBefore rows position) (addressAt rows position)).isSome = true := by
  simp only [Option.isSome_iff_exists, order_finding_eq_iff, addressBefore, last_found_iff]
  constructor
  · intro descent
    obtain ⟨earlier, previous, pc, before, found, nothing, here, lower⟩ := descent
    exact ⟨_, previous, pc, ⟨earlier, before, found, nothing⟩, here, lower, rfl⟩
  · intro reported
    obtain ⟨_, previous, pc, ⟨earlier, before, found, nothing⟩, here, lower, _⟩ := reported
    exact ⟨earlier, previous, pc, before, found, nothing, here, lower⟩

instance (rows : List Row) (position : Nat) : Decidable (GoesDown rows position) :=
  decidable_of_iff _ goes_down_iff.symm

/-- A diagnostic without its words. -/
def Diagnostic.mark (d : Diagnostic) :
    Severity × Option DiagnosticCode × Option Nat × Option Span :=
  (d.severity, d.code, d.row, d.span)

section Marks

variable (checkOrder : Bool) {rows : List Row} {position : Nat} {row : Row}

theorem interval_marks (position : Nat) (row : Row) :
    ((if row.interval.IsEmpty then [.emptyInterval] else []).map
        (Finding.diagnostic position row)).map Diagnostic.mark =
      if row.endCycle ≤ row.startCycle then [(.error, some .emptyInterval, some position, none)]
      else [] := by
  by_cases empty : row.endCycle ≤ row.startCycle
  · have isEmpty : row.interval.IsEmpty := empty
    rw [if_pos empty, if_pos isEmpty]
    rfl
  · have isProper : ¬ row.interval.IsEmpty := empty
    rw [if_neg empty, if_neg isProper]
    rfl

theorem order_marks (found : rows[position]? = some row) :
    ((if checkOrder then (orderFinding (addressBefore rows position) row.pc).toList else []).map
        (Finding.diagnostic position row)).map Diagnostic.mark =
      if checkOrder = true ∧ GoesDown rows position then
        [(.warning, some .rowOrder, some position, none)]
      else [] := by
  have descends := @goes_down_iff rows position
  rw [address_at_row found] at descends
  cases checkOrder with
  | false => simp
  | true =>
      cases finding : orderFinding (addressBefore rows position) row.pc with
      | none => simp [descends, finding]
      | some f =>
          obtain ⟨previous, pc, _, _, _, rfl⟩ := order_finding_eq_iff.mp finding
          simp [descends, finding, Finding.diagnostic, Diagnostic.mark]

theorem report_marks (found : rows[position]? = some row) :
    (reportAt checkOrder rows (row, position)).map Diagnostic.mark =
      (if row.endCycle ≤ row.startCycle then [(.error, some .emptyInterval, some position, none)]
        else []) ++
      (if checkOrder = true ∧ GoesDown rows position then
        [(.warning, some .rowOrder, some position, none)] else []) ++
      (Operands.ofText row.mnemonic.toList).issues.map fun issue =>
        (.warning, some .operands, some position, some issue.span) := by
  rw [reportAt, rowFindings, List.map_append, List.map_append, List.map_append, List.map_append,
    interval_marks, order_marks checkOrder found, List.map_map, List.map_map]
  rfl

end Marks

/-- Building is told row by row. Each row gives one task, with the number of its position and what is
read from its text, and still without a lane; and the diagnostics are what is said of each row in turn,
with the place of the row: one error if it ends no later than it starts, then one warning if the order
is checked and its address goes down from the nearest address before it, then one warning for each
issue of its text, where the issue is. -/
theorem build_is_told_row_by_row (checkOrder : Bool) (rows : List Row) :
    ((buildTasks checkOrder rows).tasks = rows.zipIdx.map fun entry =>
        let operands := Operands.ofText entry.1.mnemonic.toList
        ⟨entry.2, entry.1, operands.opcode, operands.opClass, operands.destination,
          operands.sources, none⟩) ∧
      (buildTasks checkOrder rows).diagnostics =
        rows.zipIdx.flatMap (reportAt checkOrder rows) ∧
      ∀ (position : Nat) (row : Row), rows[position]? = some row →
        (reportAt checkOrder rows (row, position)).map Diagnostic.mark =
          (if row.endCycle ≤ row.startCycle then
            [(.error, some .emptyInterval, some position, none)] else []) ++
          (if checkOrder = true ∧ GoesDown rows position then
            [(.warning, some .rowOrder, some position, none)] else []) ++
          (Operands.ofText row.mnemonic.toList).issues.map fun issue =>
            (.warning, some .operands, some position, some issue.span) := by
  refine ⟨build_from_tasks checkOrder 0 none rows, build_from_reports checkOrder rfl, ?_⟩
  intro position row found
  exact report_marks checkOrder found

/-- The third row ends where it starts, lacks its register and goes down from the first row across one
without an address; the fourth goes up from the third, though not from the first. -/
theorem descent_across_a_gap_is_reported :
    let row : Row := ⟨"beqz", .scalar, 4, 4, some 4⟩
    let rows : List Row := [⟨"addi a0,a1,1", .scalar, 0, 1, some 8⟩, ⟨"nop", .fp, 2, 3, none⟩, row,
      ⟨"j 8", .vector, 4, 5, some 6⟩]
    let marks := [(.error, some .emptyInterval, some 2, none),
      (.warning, some .rowOrder, some 2, none), (.warning, some .operands, some 2, some ⟨4, 4⟩)]
    rows[2]? = some row ∧ (reportAt true rows (row, 2)).map Diagnostic.mark = marks ∧
      (buildTasks true rows).diagnostics.map Diagnostic.mark = marks := by
  intro row rows marks
  obtain ⟨_, together, each⟩ := build_is_told_row_by_row true rows
  have found : rows[2]? = some row := rfl
  refine ⟨found, (each 2 row found).trans (by decide), ?_⟩
  rw [together]
  decide

end Retirement
