import Retirement.Dependency
import Retirement.Proofs.Ordering
import Retirement.Proofs.Task.Building

/-!
The scan for dependencies, told without a scan. A register that a task reads comes from the last
task before it that writes the register, whatever the class of that task. If the numbers do not put
that writer before the reader there is no edge, not even from an older writer.
-/

namespace Retirement

open Instruction (ClassSet)

def WritesAt (tasks : List Task) (position : Nat) (register : String) : Prop :=
  tasks[position]?.bind Task.destination = some register

instance (tasks : List Task) (position : Nat) (register : String) :
    Decidable (WritesAt tasks position register) :=
  inferInstanceAs (Decidable (_ = _))

/-- The greatest position before this one whose task writes the register. -/
def latestWriter (tasks : List Task) (position : Nat) (register : String) : Option Nat :=
  (List.range position).reverse.find? fun earlier => decide (WritesAt tasks earlier register)

theorem latest_writer_succ (tasks : List Task) (position : Nat) (register : String) :
    latestWriter tasks (position + 1) register =
      if WritesAt tasks position register then some position
      else latestWriter tasks position register := by
  rw [latestWriter, List.range_succ, List.reverse_append, List.reverse_singleton,
    List.singleton_append, List.find?_cons]
  split_ifs with writes <;> simp [writes, latestWriter]

theorem latest_writer_eq_some_iff {tasks : List Task} {position writer : Nat} {register : String} :
    latestWriter tasks position register = some writer ↔
      writer < position ∧ WritesAt tasks writer register ∧
        ∀ later, writer < later → later < position → ¬ WritesAt tasks later register := by
  rw [latestWriter, List.find?_eq_findSome?_guard, last_found_iff]
  simp only [Option.guard_eq_some_iff, Option.guard_eq_none_iff, decide_eq_true_eq,
    decide_eq_false_iff_not]
  constructor
  · intro last
    obtain ⟨_, before, ⟨rfl, writes⟩, noneBetween⟩ := last
    exact ⟨before, writes, noneBetween⟩
  · intro last
    obtain ⟨before, writes, noneBetween⟩ := last
    exact ⟨writer, before, ⟨rfl, writes⟩, noneBetween⟩

def flowEdge (tasks : List Task) (position : Nat) (consumer : Task) (register : String) :
    Option Edge :=
  match (latestWriter tasks position register).bind fun writer => tasks[writer]? with
  | some producer =>
      if producer.id < consumer.id then some ⟨producer.id, consumer.id, register⟩ else none
  | none => none

def flowEdgesAt (tracked : ClassSet) (tasks : List Task) (entry : Task × Nat) : List Edge :=
  if entry.1.opClass ∈ tracked then entry.1.sources.filterMap (flowEdge tasks entry.2 entry.1)
  else []

def flowEdges (tracked : ClassSet) (tasks : List Task) : List Edge :=
  tasks.zipIdx.flatMap (flowEdgesAt tracked tasks)

/-- At a position the scan knows the number of the latest writer of each register. -/
def KnowsLatest (tasks : List Task) (position : Nat) (writers : Writers) : Prop :=
  ∀ register, writers.lookup register =
    ((latestWriter tasks position register).bind fun writer => tasks[writer]?).map Task.id

theorem knows_latest_at_start (tasks : List Task) : KnowsLatest tasks 0 [] := by
  intro register
  rfl

theorem record_write_knows_latest {tasks : List Task} {position : Nat} {writers : Writers}
    {task : Task} (knows : KnowsLatest tasks position writers)
    (found : tasks[position]? = some task) :
    KnowsLatest tasks (position + 1) (recordWrite writers task) := by
  intro register
  have writesIff : WritesAt tasks position register ↔ task.destination = some register := by
    rw [WritesAt, found, Option.bind_some]
  rw [latest_writer_succ]
  simp only [writesIff]
  cases destination : task.destination with
  | none =>
      simp only [recordWrite, destination, reduceCtorEq, if_false]
      exact knows register
  | some written =>
      simp only [recordWrite, destination, Option.some.injEq, List.lookup_cons]
      by_cases same : register = written
      · simp [same, found]
      · have different : (register == written) = false := by simpa using same
        rw [different, if_neg (Ne.symm same)]
        exact knows register

theorem read_edge_eq_flow_edge {tasks : List Task} {position : Nat} {writers : Writers}
    (knows : KnowsLatest tasks position writers) (consumer : Task) (register : String) :
    readEdge writers consumer.id register = flowEdge tasks position consumer register := by
  rw [readEdge, flowEdge, knows register]
  cases (latestWriter tasks position register).bind fun writer => tasks[writer]? <;> rfl

theorem resolve_from_eq_flow_edges (tracked : ClassSet) {tasks rest : List Task} {position : Nat}
    {writers : Writers} (split : tasks.drop position = rest)
    (knows : KnowsLatest tasks position writers) :
    resolveFrom tracked writers rest =
      (rest.zipIdx position).flatMap (flowEdgesAt tracked tasks) := by
  induction rest generalizing position writers with
  | nil => rfl
  | cons task rest ih =>
      obtain ⟨found, later⟩ := drop_eq_cons split
      have same : readEdge writers task.id = flowEdge tasks position task :=
        funext (read_edge_eq_flow_edge knows task)
      rw [resolveFrom, List.zipIdx_cons, List.flatMap_cons,
        ih later (record_write_knows_latest knows found), readEdges, flowEdgesAt, same]

theorem resolve_eq_flow_edges (tracked : ClassSet) (tasks : List Task) :
    resolveDependencies tracked tasks = flowEdges tracked tasks :=
  resolve_from_eq_flow_edges tracked rfl (knows_latest_at_start tasks)

theorem mem_flow_edges_iff {tracked : ClassSet} {tasks : List Task} {edge : Edge} :
    edge ∈ flowEdges tracked tasks ↔
      ∃ position consumer register, tasks[position]? = some consumer ∧
        consumer.opClass ∈ tracked ∧ register ∈ consumer.sources ∧
        flowEdge tasks position consumer register = some edge := by
  simp only [flowEdges, List.mem_flatMap, Prod.exists, List.mem_zipIdx_iff_getElem?, flowEdgesAt]
  constructor
  · intro present
    obtain ⟨consumer, position, found, member⟩ := present
    split_ifs at member with isTracked
    · obtain ⟨register, reads, same⟩ := List.mem_filterMap.mp member
      exact ⟨position, consumer, register, found, isTracked, reads, same⟩
    · simp at member
  · intro present
    obtain ⟨position, consumer, register, found, isTracked, reads, same⟩ := present
    refine ⟨consumer, position, found, ?_⟩
    rw [if_pos isTracked]
    exact List.mem_filterMap.mpr ⟨register, reads, same⟩

/-- Where numbers are positions, the latest writer always gives an edge. -/
theorem flow_edge_eq_some_iff {tasks : List Task} (numbered : Numbered tasks) {position : Nat}
    {consumer : Task} (found : tasks[position]? = some consumer) {register : String} {edge : Edge} :
    flowEdge tasks position consumer register = some edge ↔
      edge = ⟨edge.producer, position, register⟩ ∧
        latestWriter tasks position register = some edge.producer := by
  have ownId := numbered position consumer found
  cases latest : latestWriter tasks position register with
  | none => simp [flowEdge, latest]
  | some writer =>
      obtain ⟨before, writes, _⟩ := latest_writer_eq_some_iff.mp latest
      obtain ⟨producer, present, _⟩ := Option.bind_eq_some_iff.mp writes
      have producerId := numbered writer producer present
      simp only [flowEdge, latest, Option.bind_some, present, producerId, ownId, if_pos before,
        Option.some.injEq]
      constructor
      · intro same
        subst same
        exact ⟨rfl, rfl⟩
      · intro same
        rw [same.2]
        exact same.1.symm

theorem mem_resolve_iff {tracked : ClassSet} {tasks : List Task} (numbered : Numbered tasks)
    (producer consumer : Nat) (register : String) :
    ⟨producer, consumer, register⟩ ∈ resolveDependencies tracked tasks ↔
      ∃ task, tasks[consumer]? = some task ∧ task.opClass ∈ tracked ∧ register ∈ task.sources ∧
        WritesAt tasks producer register ∧ producer < consumer ∧
        ∀ between, producer < between → between < consumer →
          ¬ WritesAt tasks between register := by
  rw [resolve_eq_flow_edges, mem_flow_edges_iff]
  constructor
  · intro present
    obtain ⟨position, task, read, found, isTracked, reads, same⟩ := present
    obtain ⟨shape, latest⟩ := (flow_edge_eq_some_iff numbered found).mp same
    simp only [Edge.mk.injEq, true_and] at shape
    obtain ⟨rfl, rfl⟩ := shape
    obtain ⟨before, writes, noneBetween⟩ := latest_writer_eq_some_iff.mp latest
    exact ⟨task, found, isTracked, reads, writes, before, noneBetween⟩
  · intro flow
    obtain ⟨task, found, isTracked, reads, writes, before, noneBetween⟩ := flow
    refine ⟨consumer, task, register, found, isTracked, reads, ?_⟩
    rw [flow_edge_eq_some_iff numbered found]
    exact ⟨rfl, latest_writer_eq_some_iff.mpr ⟨before, writes, noneBetween⟩⟩

/-- The resolver gives exactly the flow edges, in their order. For tasks as they are built, whose
numbers are their positions, there is an edge from each last writer to each tracked reader. -/
theorem resolver_follows_latest_writer (tracked : ClassSet) :
    (∀ tasks, resolveDependencies tracked tasks = flowEdges tracked tasks) ∧
      ∀ checkOrder rows producer consumer register,
        ⟨producer, consumer, register⟩ ∈
            resolveDependencies tracked (buildTasks checkOrder rows).tasks ↔
          ∃ task, (buildTasks checkOrder rows).tasks[consumer]? = some task ∧
            task.opClass ∈ tracked ∧ register ∈ task.sources ∧
            WritesAt (buildTasks checkOrder rows).tasks producer register ∧
            producer < consumer ∧
            ∀ between, producer < between → between < consumer →
              ¬ WritesAt (buildTasks checkOrder rows).tasks between register := by
  constructor
  · exact resolve_eq_flow_edges tracked
  · intro checkOrder rows producer consumer register
    exact mem_resolve_iff (build_tasks_numbered checkOrder rows) producer consumer register

end Retirement
