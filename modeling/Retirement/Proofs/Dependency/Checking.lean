import Retirement.Proofs.Dependency.LatestWriter

/-!
The check of edges against the resolver. Edges name tasks by position and the resolver by number, so
it is where numbers are positions that everything the resolver finds passes the check.
-/

namespace Retirement

open Instruction (ClassSet)

theorem resolved_edge_passes {tracked : ClassSet} {tasks : List Task} (numbered : Numbered tasks)
    {edge : Edge} (member : edge ∈ resolveDependencies tracked tasks) :
    edge.producer < edge.consumer ∧ consumerTracked tracked tasks edge = true ∧
      producerWrites tasks edge = true ∧ consumerReads tasks edge = true := by
  obtain ⟨reader, found, isTracked, reads, writes, before, _⟩ :=
    (mem_resolve_iff numbered edge.producer edge.consumer edge.register).mp member
  obtain ⟨writer, writerFound, destination⟩ := Option.bind_eq_some_iff.mp writes
  refine ⟨before, ?_, ?_, ?_⟩
  · rw [consumerTracked, found]
    exact isTracked
  · rw [producerWrites, writerFound]
    exact beq_iff_eq.mpr destination
  · rw [consumerReads, found]
    exact List.contains_iff_mem.mpr reads

/-- Where numbers are positions, the edges that are found pass their check. -/
theorem resolved_edges_pass (tracked : ClassSet) {tasks : List Task} (numbered : Numbered tasks) :
    checkDependencies tracked tasks (resolveDependencies tracked tasks) = ⟨true, true, true⟩ := by
  rw [checkDependencies, EdgeCheck.mk.injEq, List.all_eq_true, List.all_eq_true, List.all_eq_true]
  refine ⟨?_, ?_, ?_⟩
  · intro edge member
    exact decide_eq_true (resolved_edge_passes numbered member).1
  · intro edge member
    exact (resolved_edge_passes numbered member).2.1
  · intro edge member
    exact Bool.and_eq_true_iff.mpr (resolved_edge_passes numbered member).2.2

end Retirement
