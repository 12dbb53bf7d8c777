import Retirement.Proofs.Dependency.Renumbering
import Retirement.Proofs.Dependency.Order

/-!
Rows that leave no trace in the edges. A task that writes nothing, and of which the resolver looks at
nothing that it reads, is passed over by the scan. So its row can be deleted from the trace: the edges
are what they were, and only the numbers behind the gap move up.
-/

namespace Retirement

open Instruction (ClassSet)

/-- The task writes no register, and it is not tracked or reads none. -/
def Task.Idle (tracked : ClassSet) (task : Task) : Prop :=
  task.destination = none ∧ (task.opClass ∉ tracked ∨ task.sources = [])

instance (tracked : ClassSet) (task : Task) : Decidable (task.Idle tracked) :=
  inferInstanceAs (Decidable (_ ∧ _))

variable {tracked : ClassSet} {task : Task}

theorem Task.Idle.reads_nothing (idle : task.Idle tracked) (writers : Writers) :
    readEdges tracked writers task = [] := by
  rw [readEdges]
  rcases idle.2 with untracked | noSources
  · rw [if_neg untracked]
  · rw [noSources, List.filterMap_nil, ite_self]

theorem Task.Idle.writes_nothing (idle : task.Idle tracked) (writers : Writers) :
    recordWrite writers task = writers := by
  rw [recordWrite, idle.1]

theorem Task.WellRead.idle_of_unclassified (wellRead : task.WellRead)
    (unknown : task.opClass = .unclassified) : task.Idle tracked := by
  constructor
  · by_contra written
    have writes := wellRead.writes (Option.isSome_iff_ne_none.mpr written)
    rw [unknown] at writes
    rcases writes with impossible | impossible | impossible <;> cases impossible
  · exact Or.inr (wellRead.reads unknown)

/-- The scan does not notice that an idle task is gone. -/
theorem resolve_from_without_idle (writers : Writers) {tasks : List Task} {gap : Nat}
    (found : tasks[gap]? = some task) (idle : task.Idle tracked) :
    resolveFrom tracked writers (tasks.eraseIdx gap) = resolveFrom tracked writers tasks := by
  induction tasks generalizing gap writers with
  | nil => simp at found
  | cons first rest ih =>
      cases gap with
      | zero =>
          obtain rfl : first = task := Option.some.inj found
          rw [List.eraseIdx_cons_zero, resolveFrom, idle.reads_nothing, idle.writes_nothing,
            List.nil_append]
      | succ gap =>
          have later : rest[gap]? = some task := found
          rw [List.eraseIdx_cons_succ, resolveFrom, resolveFrom, ih _ later]

theorem idle_task_has_no_edge {tasks : List Task} (numbered : Numbered tasks) {gap : Nat}
    (found : tasks[gap]? = some task) (idle : task.Idle tracked) {edge : Edge}
    (member : edge ∈ resolveDependencies tracked tasks) :
    edge.producer ≠ gap ∧ edge.consumer ≠ gap := by
  obtain ⟨consumer, consumerFound, isTracked, reads, writes, _⟩ :=
    (mem_resolve_iff numbered edge.producer edge.consumer edge.register).mp member
  constructor
  · intro produces
    rw [WritesAt, produces, found, Option.bind_some, idle.1] at writes
    contradiction
  · intro consumes
    rw [consumes, found] at consumerFound
    obtain rfl := Option.some.inj consumerFound
    rcases idle.2 with untracked | noSources
    · exact untracked isTracked
    · rw [noSources] at reads
      contradiction

/-- Where a position moves when the one at the gap is deleted. -/
def closeGap (gap position : Nat) : Nat := if gap < position then position - 1 else position

/-- Only the gap itself and the position behind it would be confused. -/
theorem close_gap_increases (gap : Nat) :
    StrictMonoOn (closeGap gap) {position | position ≠ gap} := by
  intro earlier earlierKept later laterKept before
  simp only [Set.mem_ofPred_eq] at earlierKept laterKept
  simp only [closeGap]
  split_ifs <;> omega

theorem built_without_row (checkOrder : Bool) (rows : List Row) (gap : Nat) :
    (buildTasks checkOrder (rows.eraseIdx gap)).tasks =
      ((buildTasks checkOrder rows).tasks.eraseIdx gap).map (Task.renumber (closeGap gap)) := by
  apply List.ext_getElem?
  intro position
  rw [build_tasks_getElem, List.getElem?_map, List.getElem?_eraseIdx, List.getElem?_eraseIdx]
  have moved : ∀ old, closeGap gap old = position →
      rows[old]?.map (fun row => taskAt row position) =
        (buildTasks checkOrder rows).tasks[old]?.map (Task.renumber (closeGap gap)) := by
    intro old moves
    rw [build_tasks_getElem, Option.map_map, ← moves]
    rfl
  split_ifs with before
  · exact moved position (if_neg (by omega))
  · exact moved (position + 1) (if_pos (by omega))

theorem resolve_without_idle_row {checkOrder : Bool} {rows : List Row} {gap : Nat}
    (found : (buildTasks checkOrder rows).tasks[gap]? = some task) (idle : task.Idle tracked) :
    resolveDependencies tracked (buildTasks checkOrder (rows.eraseIdx gap)).tasks =
      (resolveDependencies tracked (buildTasks checkOrder rows).tasks).map
        (Edge.renumber (closeGap gap)) := by
  let tasks := (buildTasks checkOrder rows).tasks
  have kept : ∀ other ∈ tasks.eraseIdx gap, other.id ∈ {position | position ≠ gap} := by
    intro other member
    obtain ⟨position, elsewhere, present⟩ := List.mem_eraseIdx_iff_getElem?.mp member
    have number : other.id = position :=
      build_tasks_numbered checkOrder rows position other present
    exact number ▸ elsewhere
  calc
    resolveDependencies tracked (buildTasks checkOrder (rows.eraseIdx gap)).tasks
      = resolveDependencies tracked ((tasks.eraseIdx gap).map (Task.renumber (closeGap gap))) := by
        rw [built_without_row]
    _ = (resolveDependencies tracked (tasks.eraseIdx gap)).map (Edge.renumber (closeGap gap)) :=
        resolve_renumbered (close_gap_increases gap) tracked kept
    _ = (resolveDependencies tracked tasks).map (Edge.renumber (closeGap gap)) := by
        rw [resolveDependencies, resolve_from_without_idle [] found idle]
        rfl

namespace Timeline

/-- Idle rows are invisible in the edges. Wherever a run has an idle task, and every task that is not
classified is one, no edge starts or ends there; and the trace without its row runs to the same edges,
with every number above the gap lowered by one. -/
theorem idle_rows_are_invisible {rows : List Row} {options : Options} {timeline : Timeline}
    (finished : runAll rows options = .ok timeline) :
    ∃ edges, timeline.edges = some edges ∧
      (∀ task ∈ timeline.tasks, task.opClass = .unclassified → task.Idle options.tracked) ∧
      ∀ (gap : Nat) (task : Task), timeline.tasks[gap]? = some task → task.Idle options.tracked →
        (∀ edge ∈ edges, edge.producer ≠ gap ∧ edge.consumer ≠ gap) ∧
        ∃ shorter, runAll (rows.eraseIdx gap) options = .ok shorter ∧
          shorter.edges = some (edges.map (Edge.renumber (closeGap gap))) := by
  obtain ⟨proper, rfl⟩ := run_all_eq_ok_iff.mp finished
  let built := (buildTasks options.checkOrder rows).tasks
  have unlaned : (complete rows options).tasks.map Task.unlaned = built.map Task.unlaned :=
    allocated_unlaned built
  have wellRead := well_read_of_unlaned_eq unlaned (built_tasks_well_read _ rows)
  refine ⟨_, complete_edges rows options, ?_, ?_⟩
  · intro task member unknown
    exact Task.WellRead.idle_of_unclassified (wellRead task member) unknown
  · intro gap task found idle
    obtain ⟨original, originalFound, same⟩ := original_at_of_unlaned_eq unlaned found
    have originalIdle : original.unlaned.Idle options.tracked := same ▸ idle
    refine ⟨?_, complete (rows.eraseIdx gap) options, run_all_eq_ok_iff.mpr ⟨?_, rfl⟩, ?_⟩
    · intro edge member
      exact idle_task_has_no_edge (build_tasks_numbered _ rows) originalFound originalIdle member
    · intro empty
      obtain ⟨row, member, ends⟩ := empty
      exact proper ⟨row, List.mem_of_mem_eraseIdx member, ends⟩
    · rw [complete_edges, resolve_without_idle_row originalFound originalIdle]

/-- The branch reads a register and writes none, and branches are not tracked. Without it the edge across
it gets shorter, and the last edge moves up at both ends. -/
theorem branch_leaves_no_trace :
    let rows : List Row := [⟨"flw ft0,0(a0)", .fp, 0, 3, none⟩, ⟨"bne ft0,a1,8", .scalar, 1, 2, none⟩,
      ⟨"vfmacc.vf v0,ft0,v8", .vector, 3, 7, none⟩, ⟨"add a2,v0,a1", .scalar, 7, 8, none⟩]
    let options : Options := ⟨ClassSet.default.insert .arithmetic, true⟩
    ∃ timeline shorter, runAll rows options = .ok timeline ∧
      timeline.edges = some [⟨0, 2, "ft0"⟩, ⟨2, 3, "v0"⟩] ∧
      runAll (rows.eraseIdx 1) options = .ok shorter ∧
      shorter.edges = some [⟨0, 1, "ft0"⟩, ⟨1, 2, "v0"⟩] := by
  intro rows options
  have finished : runAll rows options = .ok (complete rows options) :=
    run_all_eq_ok_iff.mpr ⟨by decide, rfl⟩
  obtain ⟨edges, edgesHere, _, invisible⟩ := idle_rows_are_invisible finished
  have known : (complete rows options).edges = some [⟨0, 2, "ft0"⟩, ⟨2, 3, "v0"⟩] := by
    decide +kernel
  obtain rfl := Option.some.inj (edgesHere.symm.trans known)
  let branch : Task :=
    ⟨1, ⟨"bne ft0,a1,8", .scalar, 1, 2, none⟩, "bne", .conditionalBranch, none, ["ft0"], some 0⟩
  have found : (complete rows options).tasks[1]? = some branch := by decide +kernel
  have idle : branch.Idle options.tracked := by decide
  obtain ⟨_, shorter, finishedShorter, edgesThere⟩ := invisible 1 branch found idle
  exact ⟨_, shorter, finished, known, finishedShorter, edgesThere⟩

end Timeline

end Retirement
