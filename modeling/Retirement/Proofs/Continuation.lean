import Retirement.Proofs.Lane.Growth
import Retirement.Proofs.Run

/-!
A trace that goes on. Building, allocation and the resolver each read the rows in order and decide
about a row before they see the next one, so a run over a longer trace begins with the whole run over
its beginning: what is known after the first rows stays known.
-/

namespace Retirement

open Instruction (ClassSet)

def lastAddress (known : Option Nat) (rows : List Row) : Option Nat :=
  rows.foldl (fun last row => row.pc <|> last) known

theorem build_from_append (checkOrder : Bool) (index : Nat) (lastPc : Option Nat)
    (rows later : List Row) :
    let before := buildFrom checkOrder index lastPc rows
    let after := buildFrom checkOrder (index + rows.length) (lastAddress lastPc rows) later
    buildFrom checkOrder index lastPc (rows ++ later) =
      ⟨before.tasks ++ after.tasks, before.diagnostics ++ after.diagnostics⟩ := by
  induction rows generalizing index lastPc with
  | nil => rfl
  | cons row rest ih =>
      intro before after
      have position : index + 1 + rest.length = index + (row :: rest).length := by
        rw [List.length_cons]
        omega
      have shorter := ih (index + 1) (row.pc <|> lastPc)
      rw [position] at shorter
      rw [List.cons_append, buildFrom, shorter]
      simp only [before, after, buildFrom, lastAddress, List.foldl_cons, List.cons_append,
        List.append_assoc]

theorem built_tasks_begin (checkOrder : Bool) (rows later : List Row) :
    (buildTasks checkOrder rows).tasks <+: (buildTasks checkOrder (rows ++ later)).tasks := by
  unfold buildTasks
  rw [build_from_append]
  exact List.prefix_append _ _

theorem built_diagnostics_begin (checkOrder : Bool) (rows later : List Row) :
    (buildTasks checkOrder rows).diagnostics <+:
      (buildTasks checkOrder (rows ++ later)).diagnostics := by
  unfold buildTasks
  rw [build_from_append]
  exact List.prefix_append _ _

/-- The scan over later tasks starts from the writers that the earlier ones leave behind. -/
theorem resolve_from_append (tracked : ClassSet) (writers : Writers) (tasks later : List Task) :
    resolveFrom tracked writers (tasks ++ later) =
      resolveFrom tracked writers tasks ++
        resolveFrom tracked (tasks.foldl recordWrite writers) later := by
  induction tasks generalizing writers with
  | nil => rfl
  | cons task rest ih =>
      rw [List.cons_append, resolveFrom, resolveFrom, List.foldl_cons, ih, List.append_assoc]

theorem resolved_begins (tracked : ClassSet) {tasks longer : List Task}
    (begins : tasks <+: longer) :
    resolveDependencies tracked tasks <+: resolveDependencies tracked longer := by
  obtain ⟨later, rfl⟩ := begins
  unfold resolveDependencies
  rw [resolve_from_append]
  exact List.prefix_append _ _

namespace Timeline

/-- Everything that the first timeline has stands at the same place in the other, and no count of a
unit is larger. -/
structure Begins (one other : Timeline) : Prop where
  tasks : one.tasks <+: other.tasks
  edges : ∃ first second, one.edges = some first ∧ other.edges = some second ∧ first <+: second
  diagnostics : one.diagnostics <+: other.diagnostics
  lanes : ∃ first second, one.lanes = some first ∧ other.lanes = some second ∧
    ∀ u, ∃ before after, first.get u = some before ∧ second.get u = some after ∧
      before.AtMost after

theorem complete_begins (rows later : List Row) (options : Options) :
    (complete rows options).Begins (complete (rows ++ later) options) where
  tasks := allocated_begins (built_tasks_begin options.checkOrder rows later)
  edges := ⟨_, _, rfl, rfl,
    resolved_begins options.tracked (built_tasks_begin options.checkOrder rows later)⟩
  diagnostics := built_diagnostics_begin options.checkOrder rows later
  lanes := by
    refine ⟨_, _, rfl, rfl, ?_⟩
    intro u
    obtain ⟨more, split⟩ := built_tasks_begin options.checkOrder rows later
    refine ⟨_, _, allocated_stats u _, allocated_stats u _, ?_⟩
    rw [← split]
    exact unit_stats_grow u _ more

theorem complete_tasks_length (rows : List Row) (options : Options) :
    (complete rows options).tasks.length = rows.length := by
  rw [complete_tasks, allocated_length, build_tasks_length]

/-- Rows that come later change nothing that a run has decided. If the longer run succeeds, so does
the run over the first rows; its tasks, lanes included, are the first ones of the longer run, its
edges and its diagnostics come first there too, and no unit has more tasks, more lanes or a busier
cycle in it. -/
theorem later_rows_change_nothing (rows later : List Row) (options : Options) {long : Timeline}
    (finished : runAll (rows ++ later) options = .ok long) :
    ∃ short, runAll rows options = .ok short ∧ short.Begins long ∧
      short.tasks = long.tasks.take rows.length := by
  obtain ⟨proper, rfl⟩ := run_all_eq_ok_iff.mp finished
  have properBefore : ¬ ∃ row ∈ rows, row.endCycle ≤ row.startCycle := by
    intro empty
    obtain ⟨row, member, ends⟩ := empty
    exact proper ⟨row, List.mem_append_left later member, ends⟩
  have begins := complete_begins rows later options
  refine ⟨complete rows options, run_all_eq_ok_iff.mpr ⟨properBefore, rfl⟩, begins, ?_⟩
  rw [← complete_tasks_length rows options]
  exact List.prefix_iff_eq_take.mp begins.tasks

/-- The later row has a lower address, writes a register that is read before and keeps its unit busy,
and still the first two rows are told as if it were not there. -/
theorem later_row_keeps_first_two :
    let rows : List Row := [⟨"flw ft0,0(a0)", .fp, 0, 3, some 8⟩,
      ⟨"vfmacc.vf v0,ft0,v8", .vector, 3, 7, some 12⟩]
    let later : List Row := [⟨"flw ft0,4(a0)", .fp, 1, 9, some 4⟩]
    ∃ short long, runAll (rows ++ later) ⟨.all, true⟩ = .ok long ∧
      runAll rows ⟨.all, true⟩ = .ok short ∧ short.Begins long ∧
      short.tasks = long.tasks.take 2 := by
  intro rows later
  have finished : runAll (rows ++ later) ⟨.all, true⟩ = .ok (complete (rows ++ later) ⟨.all, true⟩) :=
    run_all_eq_ok_iff.mpr ⟨by decide, rfl⟩
  obtain ⟨short, ended, begins, taken⟩ := later_rows_change_nothing rows later ⟨.all, true⟩ finished
  exact ⟨short, _, finished, ended, begins, taken⟩

end Timeline

end Retirement
