import Retirement.Proofs.Dependency.Checking
import Retirement.Proofs.Instruction.Registers
import Retirement.Proofs.Ordering
import Retirement.Proofs.Run

/-!
The list of edges as a whole. Edges come by consumer and, for one consumer, in the order in which its
instruction lists the registers, so that no pair of a consumer and a register comes twice. What the
classes allow settles which tasks can stand at either end.
-/

namespace Retirement

open Instruction (ClassSet OpClass Operands WellRead)

/-- An earlier consumer, or the same one with a register that its task lists earlier. -/
def Edge.Before (tasks : List Task) (first second : Edge) : Prop :=
  first.consumer < second.consumer ∨
    first.consumer = second.consumer ∧ ∃ task, tasks[first.consumer]? = some task ∧
      ∃ i j : Nat, i < j ∧ task.sources[i]? = some first.register ∧
        task.sources[j]? = some second.register

theorem flow_edge_shape {tasks : List Task} (numbered : Numbered tasks) {position : Nat}
    {consumer : Task} (found : tasks[position]? = some consumer) {register : String} {edge : Edge}
    (flow : flowEdge tasks position consumer register = some edge) :
    edge.consumer = position ∧ edge.register = register := by
  have shape := ((flow_edge_eq_some_iff numbered found).mp flow).1
  exact ⟨congrArg Edge.consumer shape, congrArg Edge.register shape⟩

theorem flow_edges_at_consumer {tracked : ClassSet} {tasks : List Task}
    (numbered : Numbered tasks) {entry : Task × Nat} (present : entry ∈ tasks.zipIdx) {edge : Edge}
    (member : edge ∈ flowEdgesAt tracked tasks entry) : edge.consumer = entry.2 := by
  have found : tasks[entry.2]? = some entry.1 := List.mem_zipIdx_iff_getElem?.mp present
  unfold flowEdgesAt at member
  split_ifs at member
  · obtain ⟨register, _, flow⟩ := List.mem_filterMap.mp member
    exact (flow_edge_shape numbered found flow).1
  · contradiction

theorem flow_edges_at_ordered (tracked : ClassSet) {tasks : List Task}
    (numbered : Numbered tasks) {entry : Task × Nat} (present : entry ∈ tasks.zipIdx) :
    (flowEdgesAt tracked tasks entry).Pairwise (Edge.Before tasks) := by
  have found : tasks[entry.2]? = some entry.1 := List.mem_zipIdx_iff_getElem?.mp present
  unfold flowEdgesAt
  split_ifs
  · rw [List.pairwise_filterMap, List.pairwise_iff_getElem]
    intro i j iBound jBound earlier first firstFlow second secondFlow
    obtain ⟨firstConsumer, firstRegister⟩ := flow_edge_shape numbered found firstFlow
    obtain ⟨secondConsumer, secondRegister⟩ := flow_edge_shape numbered found secondFlow
    refine Or.inr ⟨firstConsumer.trans secondConsumer.symm, entry.1, ?_, i, j, earlier, ?_, ?_⟩
    · rw [firstConsumer, found]
    · rw [firstRegister, List.getElem?_eq_getElem iBound]
    · rw [secondRegister, List.getElem?_eq_getElem jBound]
  · exact List.Pairwise.nil

theorem resolved_edges_ordered (tracked : ClassSet) {tasks : List Task}
    (numbered : Numbered tasks) :
    (resolveDependencies tracked tasks).Pairwise (Edge.Before tasks) := by
  rw [resolve_eq_flow_edges, flowEdges, List.pairwise_flatMap]
  constructor
  · intro entry present
    exact flow_edges_at_ordered tracked numbered present
  · have positions : tasks.zipIdx.Pairwise fun first second => first.2 < second.2 := by
      rw [List.pairwise_iff_getElem]
      intro i j iBound jBound earlier
      simpa using earlier
    apply positions.imp_of_mem
    intro first second firstPresent secondPresent earlier one oneMember other otherMember
    apply Or.inl
    rw [flow_edges_at_consumer numbered firstPresent oneMember,
      flow_edges_at_consumer numbered secondPresent otherMember]
    exact earlier

theorem edge_before_separates {tasks : List Task}
    (distinct : ∀ task ∈ tasks, task.sources.Nodup) {first second : Edge}
    (before : first.Before tasks second) :
    ¬ (first.consumer = second.consumer ∧ first.register = second.register) := by
  intro same
  rcases before with earlier | ⟨_, task, found, i, j, order, iFound, jFound⟩
  · omega
  · have nodup := distinct task (List.mem_of_getElem? found)
    have bound : i < task.sources.length := (List.getElem?_eq_some_iff.mp iFound).1
    have equal : task.sources[i]? = task.sources[j]? := by
      rw [iFound, jFound, same.2]
    have positions := (List.getElem?_inj bound nodup).mp equal
    omega

theorem resolved_edges_distinct (tracked : ClassSet) {tasks : List Task}
    (numbered : Numbered tasks) (distinct : ∀ task ∈ tasks, task.sources.Nodup) :
    ∀ (i j : Nat) (first second : Edge), i ≠ j →
      (resolveDependencies tracked tasks)[i]? = some first →
      (resolveDependencies tracked tasks)[j]? = some second →
      ¬ (first.consumer = second.consumer ∧ first.register = second.register) := by
  rw [← pairwise_iff_at_positions]
  · exact (resolved_edges_ordered tracked numbered).imp (edge_before_separates distinct)
  · intro first second apart same
    exact apart ⟨same.1.symm, same.2.symm⟩

def Task.WellRead (task : Task) : Prop :=
  Instruction.WellRead task.opClass task.destination task.sources

theorem built_tasks_well_read (checkOrder : Bool) (rows : List Row) :
    ∀ task ∈ (buildTasks checkOrder rows).tasks, task.WellRead := by
  intro task member
  rw [buildTasks, build_from_tasks, List.mem_map] at member
  obtain ⟨entry, _, rfl⟩ := member
  exact Operands.well_read entry.1.mnemonic.toList

theorem well_read_of_unlaned_eq {tasks others : List Task}
    (same : others.map Task.unlaned = tasks.map Task.unlaned)
    (wellRead : ∀ task ∈ tasks, task.WellRead) : ∀ task ∈ others, task.WellRead := by
  intro task member
  obtain ⟨original, originalMember, sameTask⟩ := original_of_unlaned_eq same member
  have original : original.unlaned.WellRead := wellRead original originalMember
  rw [sameTask] at original
  exact original

theorem resolved_edge_ends {tracked : ClassSet} {tasks : List Task} (numbered : Numbered tasks)
    (wellRead : ∀ task ∈ tasks, task.WellRead) {edge : Edge}
    (member : edge ∈ resolveDependencies tracked tasks) :
    ∃ producer consumer, tasks[edge.producer]? = some producer ∧
      tasks[edge.consumer]? = some consumer ∧ producer.opClass.Writes ∧
      consumer.opClass ∈ tracked ∧ consumer.opClass ≠ .unclassified := by
  obtain ⟨consumer, found, isTracked, reads, writes, _⟩ :=
    (mem_resolve_iff numbered edge.producer edge.consumer edge.register).mp member
  obtain ⟨producer, producerFound, destination⟩ := Option.bind_eq_some_iff.mp writes
  refine ⟨producer, consumer, producerFound, found, ?_, isTracked, ?_⟩
  · apply (wellRead producer (List.mem_of_getElem? producerFound)).writes
    rw [destination]
    rfl
  · intro unknown
    have nothing := (wellRead consumer (List.mem_of_getElem? found)).reads unknown
    rw [nothing] at reads
    contradiction

theorem read_edges_with_unclassified (tracked : ClassSet) (writers : Writers) {task : Task}
    (wellRead : task.WellRead) :
    readEdges (tracked.insert .unclassified) writers task = readEdges tracked writers task := by
  unfold readEdges
  by_cases unknown : task.opClass = .unclassified
  · rw [wellRead.reads unknown, List.filterMap_nil, ite_self, ite_self]
  · simp only [ClassSet.mem_insert, unknown, false_or]

/-- Nothing is read by an unclassified task, so that tracking its class finds no further edge. -/
theorem resolve_from_with_unclassified (tracked : ClassSet) (writers : Writers)
    {tasks : List Task} (wellRead : ∀ task ∈ tasks, task.WellRead) :
    resolveFrom (tracked.insert .unclassified) writers tasks =
      resolveFrom tracked writers tasks := by
  induction tasks generalizing writers with
  | nil => rfl
  | cons task rest ih =>
      obtain ⟨first, later⟩ := List.forall_mem_cons.mp wellRead
      rw [resolveFrom, resolveFrom, read_edges_with_unclassified tracked writers first,
        ih (recordWrite writers task) later]

namespace Timeline

/-- The edges of a whole run. No consumer has two edges for one register; edges come by consumer and
then in the order of its sources; producers compute or load, and consumers are tracked and of a known
class. So it makes no difference whether unclassified tasks are tracked as well. -/
theorem run_edges_ordered_and_classed {rows : List Row} {options : Options} {timeline : Timeline}
    (finished : runAll rows options = .ok timeline) :
    ∃ edges, timeline.edges = some edges ∧
      (∀ (i j : Nat) (first second : Edge), i ≠ j → edges[i]? = some first →
        edges[j]? = some second →
        ¬ (first.consumer = second.consumer ∧ first.register = second.register)) ∧
      edges.Pairwise (Edge.Before timeline.tasks) ∧
      (∀ edge ∈ edges, ∃ producer consumer, timeline.tasks[edge.producer]? = some producer ∧
        timeline.tasks[edge.consumer]? = some consumer ∧
        (producer.opClass = .arithmetic ∨ producer.opClass = .indexedLoad ∨
          producer.opClass = .fusedMultiplyAccumulate) ∧
        consumer.opClass ∈ options.tracked ∧ consumer.opClass ≠ .unclassified) ∧
      ∃ wider, runAll rows { options with tracked := options.tracked.insert .unclassified } =
        .ok wider ∧ wider.edges = some edges := by
  obtain ⟨proper, rfl⟩ := run_all_eq_ok_iff.mp finished
  let built := (buildTasks options.checkOrder rows).tasks
  have unlaned : (complete rows options).tasks.map Task.unlaned = built.map Task.unlaned :=
    allocated_unlaned built
  have builtRead : ∀ task ∈ built, task.WellRead := built_tasks_well_read _ rows
  have numbered : Numbered (complete rows options).tasks :=
    numbered_of_unlaned_eq unlaned (build_tasks_numbered _ rows)
  have wellRead := well_read_of_unlaned_eq unlaned builtRead
  -- The edges are those of the tasks with their lanes, in which the ends are looked up.
  have sameEdges : (complete rows options).edges =
      some (resolveDependencies options.tracked (complete rows options).tasks) := by
    rw [complete_edges, resolve_of_unlaned_eq options.tracked unlaned]
  refine ⟨_, sameEdges, ?_, ?_, ?_, ?_⟩
  · apply resolved_edges_distinct options.tracked numbered
    intro task member
    exact (wellRead task member).distinct
  · exact resolved_edges_ordered options.tracked numbered
  · intro edge member
    exact resolved_edge_ends numbered wellRead member
  · refine ⟨_, run_all_eq_ok_iff.mpr ⟨proper, rfl⟩, ?_⟩
    rw [complete_edges, resolve_of_unlaned_eq options.tracked unlaned]
    exact congrArg some (resolve_from_with_unclassified options.tracked [] builtRead)

/-- The consumer reads one register twice and two others once, and one row is not classified. -/
theorem repeated_source_gives_one_edge :
    let rows : List Row := [⟨"flw ft0,0(a0)", .fp, 0, 3, none⟩, ⟨"add a1,a2,a3", .scalar, 1, 2, none⟩,
      ⟨"nop ft0,a1", .scalar, 2, 3, none⟩, ⟨"vfmacc.vf v0,ft0,a1,ft0", .vector, 3, 7, none⟩]
    let edges : List Edge := [⟨0, 3, "ft0"⟩, ⟨1, 3, "a1"⟩]
    ∃ timeline wider, runAll rows ⟨.default, true⟩ = .ok timeline ∧
      timeline.edges = some edges ∧ edges.Pairwise (Edge.Before timeline.tasks) ∧
      runAll rows ⟨ClassSet.default.insert .unclassified, true⟩ = .ok wider ∧
      wider.edges = some edges := by
  intro rows edges
  have finished : runAll rows ⟨.default, true⟩ = .ok (complete rows ⟨.default, true⟩) :=
    run_all_eq_ok_iff.mpr ⟨by decide, rfl⟩
  obtain ⟨found, foundHere, _, ordered, _, wider, widerFinished, widerEdges⟩ :=
    run_edges_ordered_and_classed finished
  have same : found = edges := by
    rw [complete_edges, Option.some.injEq] at foundHere
    rw [← foundHere]
    decide +kernel
  subst same
  exact ⟨_, wider, finished, foundHere, ordered, widerFinished, widerEdges⟩

end Timeline

end Retirement
