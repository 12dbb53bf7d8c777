import Retirement.Proofs.Run
import Retirement.Proofs.Task.OrderCheck

/-!
What the options of a run change. The order check puts its own warnings between the other diagnostics
and does nothing else; the tracked classes decide which edges there are. Tasks, lanes, statistics and
the end of a run are the same whatever the options.
-/

namespace Retirement

open Instruction (ClassSet Operands)

instance (d : Diagnostic) : Decidable (OrderWarning d) := inferInstanceAs (Decidable (_ ∧ _))

def withoutOrderWarnings (diagnostics : List Diagnostic) : List Diagnostic :=
  diagnostics.filter fun d => ¬ OrderWarning d

theorem without_order_warnings_append (first second : List Diagnostic) :
    withoutOrderWarnings (first ++ second) =
      withoutOrderWarnings first ++ withoutOrderWarnings second :=
  List.filter_append first second

/-- Findings of which none is of the order check are all kept. -/
theorem findings_kept (findings : List Finding) (index : Nat) (row : Row)
    (other : ∀ pc previous, .outOfOrder pc previous ∉ findings) :
    withoutOrderWarnings (findings.map (Finding.diagnostic index row)) =
      findings.map (Finding.diagnostic index row) := by
  apply List.filter_eq_self.mpr
  intro d member
  obtain ⟨finding, found, rfl⟩ := List.mem_map.mp member
  rw [decide_eq_true_eq, order_warning_iff]
  rintro ⟨pc, previous, rfl⟩
  exact other pc previous found

theorem order_findings_deleted (index : Nat) (row : Row) (lastPc : Option Nat) :
    withoutOrderWarnings ((orderFinding lastPc row.pc).toList.map (Finding.diagnostic index row)) =
      [] := by
  apply List.filter_eq_nil_iff.mpr
  intro d member
  obtain ⟨finding, found, rfl⟩ := List.mem_map.mp member
  rw [decide_eq_true_eq, not_not, order_warning_iff]
  exact order_finding_is_out_of_order found

/-- Without the warnings of the order check, a row has the findings that it has without the check. -/
theorem row_without_order_warnings (checkOrder : Bool) (index : Nat) (lastPc other : Option Nat)
    (row : Row) (operands : Operands) :
    withoutOrderWarnings
        ((rowFindings checkOrder lastPc row operands).map (Finding.diagnostic index row)) =
      (rowFindings false other row operands).map (Finding.diagnostic index row) := by
  have interval := findings_kept (if row.interval.IsEmpty then [.emptyInterval] else []) index row
    (by intro pc previous; split_ifs <;> simp)
  have issues := findings_kept (operands.issues.map .operand) index row (by simp)
  have order : withoutOrderWarnings ((if checkOrder then (orderFinding lastPc row.pc).toList else
      []).map (Finding.diagnostic index row)) = [] := by
    cases checkOrder with
    | false => rfl
    | true => exact order_findings_deleted index row lastPc
  rw [rowFindings, rowFindings, if_neg Bool.false_ne_true, List.append_nil]
  simp only [List.map_append, without_order_warnings_append, interval, order, issues,
    List.append_nil]

theorem build_from_without_order_warnings (checkOrder : Bool) (index : Nat)
    (lastPc other : Option Nat) (rows : List Row) :
    withoutOrderWarnings (buildFrom checkOrder index lastPc rows).diagnostics =
      (buildFrom false index other rows).diagnostics := by
  induction rows generalizing index lastPc other with
  | nil => rfl
  | cons row rest ih =>
      rw [buildFrom, buildFrom, without_order_warnings_append,
        row_without_order_warnings checkOrder index lastPc other,
        ih (index + 1) (row.pc <|> lastPc) (row.pc <|> other)]

theorem build_without_order_warnings (checkOrder : Bool) (rows : List Row) :
    withoutOrderWarnings (buildTasks checkOrder rows).diagnostics =
      (buildTasks false rows).diagnostics :=
  build_from_without_order_warnings checkOrder 0 none none rows

theorem built_tasks_without_check (checkOrder other : Bool) (rows : List Row) :
    (buildTasks checkOrder rows).tasks = (buildTasks other rows).tasks := by
  rw [buildTasks, buildTasks, build_from_tasks, build_from_tasks]

theorem unchecked_order_is_silent (rows : List Row) :
    ∀ d ∈ (buildTasks false rows).diagnostics, d.code ≠ some .rowOrder := by
  intro d member ordered
  obtain ⟨position, row, last, _, finding, found, rfl⟩ := build_from_diagnostic _ _ _ _ member
  cases finding with
  | emptyInterval => cases ordered
  | outOfOrder pc previous =>
      have checked := (out_of_order_found_iff _ _ _ _ pc previous).mp found
      exact Bool.false_ne_true checked.1
  | operand issue => cases ordered

/-- Where addresses do not go down there is nothing to warn of, and the check changes nothing. -/
theorem build_of_ascending {rows : List Row} (ascends : AddressesAscend rows) (checkOrder : Bool) :
    buildTasks checkOrder rows = buildTasks false rows := by
  have nothing : withoutOrderWarnings (buildTasks checkOrder rows).diagnostics =
      (buildTasks checkOrder rows).diagnostics := by
    apply List.filter_eq_self.mpr
    intro d member
    rw [decide_eq_true_eq]
    intro warning
    exact ((build_warns_iff checkOrder rows).mp ⟨d, member, warning⟩).2 ascends
  exact congrArg₂ Built.mk (built_tasks_without_check checkOrder false rows)
    (nothing.symm.trans (build_without_order_warnings checkOrder rows))

namespace Timeline

/-- Tasks, lanes and statistics come from the built tasks alone, and edges from the tracked classes as
well. -/
theorem made_of_same_tasks {built other : Built} (same : built.tasks = other.tasks)
    (tracked otherTracked : ClassSet) (targets : List Pass) :
    let one := made built tracked targets
    let second := made other otherTracked targets
    one.tasks = second.tasks ∧ one.lanes = second.lanes ∧
      (tracked = otherTracked → one.edges = second.edges) := by
  simp only [made, same, true_and]
  intro sameClasses
  rw [sameClasses]

/-- Options do what they say and nothing else. Over one trace and for one request, a run with any
options succeeds if a run with any others does; their tasks, lanes and statistics are the same, and so
are their edges if the same classes are tracked. Whether they succeed or not, they report the same
apart from the warnings of the order check, and there are none of these without the check. -/
theorem options_change_nothing_else (rows : List Row) (targets : List Pass)
    (first second : Options) :
    ((∃ one, (run rows targets first).2 = .ok one) ↔
        ∃ other, (run rows targets second).2 = .ok other) ∧
      (∀ one other, (run rows targets first).2 = .ok one →
        (run rows targets second).2 = .ok other →
          one.tasks = other.tasks ∧ one.lanes = other.lanes ∧
            (first.tracked = second.tracked → one.edges = other.edges)) ∧
      withoutOrderWarnings (returned (run rows targets first).2) =
        withoutOrderWarnings (returned (run rows targets second).2) ∧
      (first.checkOrder = false →
        ∀ d ∈ returned (run rows targets first).2, d.code ≠ some .rowOrder) := by
  have reports : withoutOrderWarnings (buildTasks first.checkOrder rows).diagnostics =
      withoutOrderWarnings (buildTasks second.checkOrder rows).diagnostics := by
    rw [build_without_order_warnings, build_without_order_warnings]
  have silent : first.checkOrder = false →
      ∀ d ∈ (buildTasks first.checkOrder rows).diagnostics, d.code ≠ some .rowOrder := by
    intro unchecked
    rw [unchecked]
    exact unchecked_order_is_silent rows
  by_cases unwanted : targets = []
  · rw [unwanted, run_without_targets, run_without_targets]
    refine ⟨⟨fun _ => ⟨_, rfl⟩, fun _ => ⟨_, rfl⟩⟩, ?_, rfl, by simp [returned, start]⟩
    intro one other oneStarted otherStarted
    cases oneStarted
    cases otherStarted
    exact ⟨rfl, rfl, fun _ => rfl⟩
  by_cases empty : ∃ row ∈ rows, row.endCycle ≤ row.startCycle
  · rw [run_with_empty_row unwanted empty, run_with_empty_row unwanted empty]
    refine ⟨⟨?_, ?_⟩, ?_, reports, silent⟩
    · rintro ⟨one, impossible⟩
      cases impossible
    · rintro ⟨other, impossible⟩
      cases impossible
    · intro one other impossible
      cases impossible
  · rw [run_makes_targets unwanted empty, run_makes_targets unwanted empty]
    refine ⟨⟨fun _ => ⟨_, rfl⟩, fun _ => ⟨_, rfl⟩⟩, ?_, reports, silent⟩
    intro one other oneMade otherMade
    cases oneMade
    cases otherMade
    exact made_of_same_tasks (built_tasks_without_check _ _ rows) _ _ targets

/-- The third row goes below the first across a row without an address, and its branch target is no
register. With the order check both are reported, and without it only the second. -/
theorem order_check_adds_its_warning :
    let rows : List Row := [⟨"flw ft0,0(a0)", .fp, 0, 3, some 8⟩, ⟨"nop", .scalar, 1, 2, none⟩,
      ⟨"add a1,ft0,(8)", .scalar, 3, 4, some 4⟩]
    let targets : List Pass := [.resolveDeps, .allocateLanes]
    ∃ one other, (run rows targets ⟨.all, true⟩).2 = .ok one ∧
      (run rows targets ⟨.all, false⟩).2 = .ok other ∧
      one.tasks = other.tasks ∧ one.lanes = other.lanes ∧ one.edges = other.edges ∧
      withoutOrderWarnings one.diagnostics = withoutOrderWarnings other.diagnostics ∧
      (∃ d ∈ one.diagnostics, OrderWarning d) ∧
      other.diagnostics ≠ [] ∧ ∀ d ∈ other.diagnostics, d.code ≠ some .rowOrder := by
  intro rows targets
  have wanted : targets ≠ [] := by decide
  have proper : ¬ ∃ row ∈ rows, row.endCycle ≤ row.startCycle := by decide
  have checked := congrArg Prod.snd (run_makes_targets wanted proper ⟨.all, true⟩)
  have unchecked := congrArg Prod.snd (run_makes_targets wanted proper ⟨.all, false⟩)
  obtain ⟨_, same, reports, _⟩ :=
    options_change_nothing_else rows targets ⟨.all, true⟩ ⟨.all, false⟩
  obtain ⟨_, _, _, silent⟩ :=
    options_change_nothing_else rows targets ⟨.all, false⟩ ⟨.all, true⟩
  obtain ⟨tasks, lanes, edges⟩ := same _ _ checked unchecked
  have noWarning := silent rfl
  rw [checked, unchecked] at reports
  rw [unchecked] at noWarning
  exact ⟨_, _, checked, unchecked, tasks, lanes, edges rfl, reports,
    (build_warns_iff true rows).mpr ⟨rfl, by decide⟩, by decide, noWarning⟩

end Timeline

end Retirement
