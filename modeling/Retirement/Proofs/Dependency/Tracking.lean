import Retirement.Proofs.Dependency.Order

/-!
What the set of tracked classes does. Every task is scanned and every write is recorded whatever is
tracked, so that the writers are the same at each position; the set decides only at which consumers
edges are given out. To track fewer classes is therefore to keep, of the edges that there were, those
whose consumer is still tracked.
-/

namespace Retirement

open Instruction (ClassSet)

theorem consumer_tracked_at {tracked : ClassSet} {tasks : List Task} {position : Nat} {task : Task}
    (found : tasks[position]? = some task) {edge : Edge} (consumer : edge.consumer = position) :
    consumerTracked tracked tasks edge = true ↔ task.opClass ∈ tracked := by
  rw [consumerTracked, consumer, found]
  exact ClassSet.mem_iff.symm

/-- At one position all edges have the same consumer, so they are kept or dropped together. -/
theorem flow_edges_at_filtered {tracked wider : ClassSet} (within : ∀ c ∈ tracked, c ∈ wider)
    {tasks : List Task} (numbered : Numbered tasks) {entry : Task × Nat}
    (present : entry ∈ tasks.zipIdx) :
    (flowEdgesAt wider tasks entry).filter (consumerTracked tracked tasks) =
      flowEdgesAt tracked tasks entry := by
  have found : tasks[entry.2]? = some entry.1 := List.mem_zipIdx_iff_getElem?.mp present
  have decides : ∀ edge ∈ flowEdgesAt wider tasks entry,
      consumerTracked tracked tasks edge = true ↔ entry.1.opClass ∈ tracked :=
    fun edge member =>
      consumer_tracked_at found (flow_edges_at_consumer numbered present member)
  by_cases isTracked : entry.1.opClass ∈ tracked
  · have same : flowEdgesAt wider tasks entry = flowEdgesAt tracked tasks entry := by
      rw [flowEdgesAt, flowEdgesAt, if_pos isTracked, if_pos (within _ isTracked)]
    rw [← same]
    exact List.filter_eq_self.mpr fun edge member => (decides edge member).mpr isTracked
  · have nothing : flowEdgesAt tracked tasks entry = [] := if_neg isTracked
    rw [nothing]
    exact List.filter_eq_nil_iff.mpr fun edge member => mt (decides edge member).mp isTracked

theorem resolve_filtered {tracked wider : ClassSet} (within : ∀ c ∈ tracked, c ∈ wider)
    {tasks : List Task} (numbered : Numbered tasks) :
    (resolveDependencies wider tasks).filter (consumerTracked tracked tasks) =
      resolveDependencies tracked tasks := by
  rw [resolve_eq_flow_edges, resolve_eq_flow_edges, flowEdges, flowEdges, List.filter_flatMap]
  apply List.flatMap_congr
  intro entry present
  exact flow_edges_at_filtered within numbered present

/-- Tracking filters consumers and does nothing else. Over tasks whose numbers are their positions, the
edges for some classes are those of the edges for any more classes whose consumer is of one of the
classes, in their order; in particular they all come, in this order, among the edges that there are
when every class is tracked. -/
theorem tracking_filters_consumers {tasks : List Task} (numbered : Numbered tasks)
    (tracked : ClassSet) :
    (∀ wider : ClassSet, (∀ c ∈ tracked, c ∈ wider) →
        resolveDependencies tracked tasks =
          (resolveDependencies wider tasks).filter (consumerTracked tracked tasks)) ∧
      (resolveDependencies tracked tasks).Sublist (resolveDependencies .all tasks) := by
  have filtered : ∀ wider : ClassSet, (∀ c ∈ tracked, c ∈ wider) →
      resolveDependencies tracked tasks =
        (resolveDependencies wider tasks).filter (consumerTracked tracked tasks) :=
    fun wider within => (resolve_filtered within numbered).symm
  refine ⟨filtered, ?_⟩
  rw [filtered .all fun _ _ => rfl]
  exact List.filter_sublist

/-- The first consumer is not tracked in the smaller set, and its write is what the second one reads:
the edge to the second stays, the edge to the first goes. -/
theorem untracked_consumer_still_produces :
    let tasks := (buildTasks false [⟨"flw ft0,0(a0)", .fp, 0, 3, none⟩,
      ⟨"add ft1,ft0,a1", .scalar, 1, 2, none⟩, ⟨"vfmacc.vf v0,ft1,ft0", .vector, 3, 7, none⟩]).tasks
    let wider : ClassSet := ClassSet.default.insert .arithmetic
    resolveDependencies wider tasks = [⟨0, 1, "ft0"⟩, ⟨1, 2, "ft1"⟩, ⟨0, 2, "ft0"⟩] ∧
      resolveDependencies .default tasks = [⟨1, 2, "ft1"⟩, ⟨0, 2, "ft0"⟩] ∧
      (resolveDependencies .default tasks).Sublist (resolveDependencies .all tasks) := by
  intro tasks wider
  have numbered : Numbered tasks := build_tasks_numbered false _
  obtain ⟨filtered, among⟩ := tracking_filters_consumers numbered .default
  have all : resolveDependencies wider tasks =
      [⟨0, 1, "ft0"⟩, ⟨1, 2, "ft1"⟩, ⟨0, 2, "ft0"⟩] := by decide +kernel
  have within : ∀ c ∈ ClassSet.default, c ∈ wider :=
    fun c member => ClassSet.mem_insert.mpr (Or.inr member)
  refine ⟨all, ?_, among⟩
  rw [filtered wider within, all]
  decide +kernel

end Retirement
