import Retirement.Proofs.Command.TaskListing
import Retirement.Proofs.Dependency.Order
import Retirement.Proofs.Targets

/-!
The text report of a run with lanes and edges. Below each unit it lists the unit's tasks lane by lane
and on each lane by number, and over all units every task once. The tasks that an edge names are there,
so that the mark for a missing one is never shown.
-/

namespace Retirement

open Instruction (ClassSet)
open Text (lineFeeds)

namespace Task

/-- Where a task stands among the lanes; in front of them all if it has none. -/
def lanePlace (task : Task) : Nat :=
  match task.lane with
  | none => 0
  | some lane => lane + 1

theorem lane_le_iff (first second : Task) :
    laneLe first second = true ↔ first.lanePlace < second.lanePlace ∨
      first.lanePlace = second.lanePlace ∧ first.id ≤ second.id := by
  unfold laneLe lanePlace
  cases first.lane <;> cases second.lane <;> simp

theorem lane_le_trans (first second third : Task) (lower : laneLe first second = true)
    (upper : laneLe second third = true) : laneLe first third = true := by
  rw [lane_le_iff] at *
  omega

theorem lane_le_total (first second : Task) : (laneLe first second || laneLe second first) = true := by
  rw [Bool.or_eq_true, lane_le_iff, lane_le_iff]
  omega

/-- On a lower lane, or on the same lane with a lower number. -/
def ListedBefore (first second : Task) : Prop :=
  ∃ low high, first.lane = some low ∧ second.lane = some high ∧
    (low < high ∨ low = high ∧ first.id < second.id)

theorem listed_before_of_lane_le {first second : Task} (ordered : laneLe first second = true)
    (firstLaned : first.lane.isSome = true) (secondLaned : second.lane.isSome = true)
    (different : first.id ≠ second.id) : first.ListedBefore second := by
  obtain ⟨low, isLow⟩ := Option.isSome_iff_exists.mp firstLaned
  obtain ⟨high, isHigh⟩ := Option.isSome_iff_exists.mp secondLaned
  have places : first.lanePlace = low + 1 ∧ second.lanePlace = high + 1 := by
    simp only [lanePlace, isLow, isHigh, and_self]
  rw [lane_le_iff, places.1, places.2] at ordered
  refine ⟨low, high, isLow, isHigh, ?_⟩
  omega

end Task

/-- The tasks of a unit as a report lists them: each once, by lane and number, and on one lane without
overlap. -/
structure Listed (u : ExecUnit) (tasks members : List Task) : Prop where
  perm : members.Perm (unitTasks u tasks)
  ordered : members.Pairwise Task.ListedBefore
  apart : members.Pairwise fun first second => first.lane = second.lane →
    first.id < second.id ∧ ¬ first.interval.Overlaps second.interval

theorem numbered_ids {tasks : List Task} (numbered : Numbered tasks) :
    tasks.map Task.id = List.range tasks.length := by
  apply List.ext_getElem?
  intro position
  rw [List.getElem?_map]
  cases found : tasks[position]? with
  | none =>
      have past := List.getElem?_eq_none_iff.mp found
      exact (List.getElem?_eq_none (by simpa using past)).symm
  | some task =>
      obtain ⟨within, _⟩ := List.getElem?_eq_some_iff.mp found
      rw [Option.map_some, numbered position task found, List.getElem?_range within]

/-- What holds between any two tasks holds between any two that are listed. -/
theorem unit_members_pairwise {relation : Task → Task → Prop}
    (symmetric : ∀ {first second}, relation first second → relation second first)
    {tasks : List Task} (related : tasks.Pairwise relation) (u : ExecUnit) :
    (Timeline.unitMembers u tasks).Pairwise relation := by
  rw [Timeline.unitMembers, (List.mergeSort_perm _ _).pairwise_iff symmetric]
  exact related.sublist List.filter_sublist

theorem mem_unit_members {u : ExecUnit} {tasks : List Task} {task : Task} :
    task ∈ Timeline.unitMembers u tasks ↔ task ∈ tasks ∧ task.unit = u := by
  rw [Timeline.unitMembers, List.mem_mergeSort, List.mem_filter, decide_eq_true_eq]

theorem unit_members_listed_before {tasks : List Task} (numbered : Numbered tasks)
    (laned : ∀ task ∈ tasks, task.lane.isSome = true) (u : ExecUnit) :
    (Timeline.unitMembers u tasks).Pairwise Task.ListedBefore := by
  have ids : (tasks.map Task.id).Nodup := by
    rw [numbered_ids numbered]
    exact List.nodup_range
  have different := unit_members_pairwise Ne.symm (List.pairwise_map.mp ids) u
  have sorted : (Timeline.unitMembers u tasks).Pairwise fun first second =>
      Task.laneLe first second = true :=
    List.pairwise_mergeSort Task.lane_le_trans Task.lane_le_total _
  apply (sorted.and different).imp_of_mem
  intro first second firstListed secondListed both
  apply Task.listed_before_of_lane_le both.1 _ _ both.2
  · exact laned first (mem_unit_members.mp firstListed).1
  · exact laned second (mem_unit_members.mp secondListed).1

theorem allocated_unit_listed {tasks : List Task} (numbered : Numbered (allocateLanes tasks).1)
    (u : ExecUnit) :
    Listed u (allocateLanes tasks).1 (Timeline.unitMembers u (allocateLanes tasks).1) where
  perm := List.mergeSort_perm _ _
  ordered := unit_members_listed_before numbered (allocated_tasks_have_lanes tasks) u
  apart := by
    have ordered := unit_members_listed_before numbered (allocated_tasks_have_lanes tasks) u
    have disjoint := unit_members_pairwise Task.apart_symm (allocated_tasks_apart tasks) u
    apply (ordered.and disjoint).imp_of_mem
    intro first second firstListed secondListed both sameLane
    obtain ⟨⟨low, high, isLow, isHigh, order⟩, apart⟩ := both
    have unit : first.unit = second.unit :=
      (mem_unit_members.mp firstListed).2.trans (mem_unit_members.mp secondListed).2.symm
    rw [isLow, isHigh, Option.some.injEq] at sameLane
    constructor
    · omega
    · exact apart ⟨unit, low, isLow, isHigh.trans (congrArg some sameLane.symm)⟩

def ShowsTask (rows : List Row) (u : ExecUnit) (task : Task) (entry : String) : Prop :=
  ∃ lane row, task.lane = some lane ∧ rows[task.id]? = some row ∧
    entry = "  " ++ u.laneLabel lane ++ ": " ++ displayId task.id ++ " " ++ row.interval.display ++
      " " ++ row.mnemonic

def ShowsEdge (rows : List Row) (edge : Edge) (entry : String) : Prop :=
  ∃ producer consumer, rows[edge.producer]? = some producer ∧
    rows[edge.consumer]? = some consumer ∧
    entry = "  " ++ edge.display ++ ": " ++ producer.mnemonic ++ " -> " ++ consumer.mnemonic

section

variable {tasks : List Task} {rows : List Row} (same : tasks.map Task.row = rows)

include same

theorem row_at_task {position : Nat} {task : Task} (found : tasks[position]? = some task) :
    rows[position]? = some task.row := by
  rw [← same, List.getElem?_map, found, Option.map_some]

theorem lane_entry_shows (numbered : Numbered tasks) {task : Task} (member : task ∈ tasks)
    (laned : task.lane.isSome = true) : ShowsTask rows task.unit task task.laneEntry := by
  obtain ⟨position, found⟩ := List.mem_iff_getElem?.mp member
  obtain ⟨lane, isLane⟩ := Option.isSome_iff_exists.mp laned
  refine ⟨lane, task.row, isLane, ?_, ?_⟩
  · rw [numbered position task found]
    exact row_at_task same found
  · rw [Task.laneEntry, isLane]
    rfl

theorem edge_entry_shows {edge : Edge} {producer consumer : Task}
    (producerFound : tasks[edge.producer]? = some producer)
    (consumerFound : tasks[edge.consumer]? = some consumer) :
    ShowsEdge rows edge (Timeline.edgeEntry tasks edge) := by
  refine ⟨producer.row, consumer.row, row_at_task same producerFound,
    row_at_task same consumerFound, ?_⟩
  rw [Timeline.edgeEntry, Timeline.mnemonicAt, Timeline.mnemonicAt, producerFound, consumerFound]
  rfl

end

namespace Timeline

def headerLine (count : Nat) (tracked : ClassSet) : String :=
  "timeline: " ++ toString count ++ " tasks, tracking " ++ tracked.display

def statisticsLine (u : ExecUnit) (stats : UnitStats) : String :=
  "[" ++ u.name ++ "] " ++ LaneSummary.describe stats

def edgeCountLine (count : Nat) : String := "edges: " ++ toString count

theorem header_on_one_line (count : Nat) (tracked : ClassSet) :
    lineFeeds (headerLine count tracked) = 0 := by
  have names : lineFeeds (", ".intercalate (tracked.toList.map Instruction.OpClass.name)) = 0 := by
    apply Text.line_feeds_of_intercalate rfl
    intro name member
    obtain ⟨c, _, rfl⟩ := List.mem_map.mp member
    exact line_feeds_of_class_name c
  simp only [headerLine, ClassSet.display, Text.line_feeds_append, Text.line_feeds_of_number, names]
  rfl

theorem statistics_on_one_line (u : ExecUnit) (stats : UnitStats) :
    lineFeeds (statisticsLine u stats) = 0 := by
  simp only [statisticsLine, LaneSummary.describe, Text.line_feeds_append,
    Text.line_feeds_of_number, line_feeds_of_unit_name]
  rfl

theorem edge_count_on_one_line (count : Nat) : lineFeeds (edgeCountLine count) = 0 := by
  rw [edgeCountLine, Text.line_feeds_append, Text.line_feeds_of_number]
  rfl

/-- A run that has lanes and edges has all that there is. -/
theorem run_with_lanes_and_edges {rows : List Row} {targets : List Pass} {options : Options}
    {timeline : Timeline} (finished : (run rows targets options).2 = .ok timeline)
    (laned : timeline.lanes.isSome = true) (linked : timeline.edges.isSome = true) :
    timeline = complete rows options := by
  have wanted : targets ≠ [] := by
    rintro rfl
    rw [run_without_targets] at finished
    cases finished
    contradiction
  obtain ⟨_, rfl⟩ := (run_eq_ok_iff wanted).mp finished
  apply made_congr
  intro pass later
  cases pass with
  | buildTasks => exact absurd rfl later
  | allocateLanes => exact iff_of_true ((made_lanes_iff _ _ _).mp laned) (by decide)
  | resolveDeps => exact iff_of_true ((made_edges_iff _ _ _).mp linked) (by decide)

theorem complete_report (rows : List Row) (options : Options) :
    (complete rows options).report = Command.lines
      (headerLine rows.length options.tracked ::
        ((ExecUnit.all.flatMap fun u =>
            statisticsLine u (unitStats u (buildTasks options.checkOrder rows).tasks) ::
              (unitMembers u (complete rows options).tasks).map Task.laneEntry) ++
          edgeCountLine (resolveDependencies options.tracked
              (buildTasks options.checkOrder rows).tasks).length ::
            (resolveDependencies options.tracked (buildTasks options.checkOrder rows).tasks).map
              (edgeEntry (complete rows options).tasks))) := by
  have count : (complete rows options).tasks.length = rows.length := by
    rw [complete_tasks, allocated_length, build_tasks_length]
  rw [← count]
  rfl

/-- The report of a run that has lanes and edges: a header, for each unit in display order its
statistics and its tasks, the number of edges, and every edge. Each task stands once, below its own
unit, by lane and then by number, and tasks on one lane do not overlap. Every entry shows what the
rows have, the ends of an edge included. -/
theorem report_lists_everything_once {rows : List Row} {targets : List Pass} {options : Options}
    {timeline : Timeline} (finished : (run rows targets options).2 = .ok timeline)
    (laned : timeline.lanes.isSome = true) (linked : timeline.edges.isSome = true) :
    ∃ summary edges, timeline.lanes = some summary ∧ timeline.edges = some edges ∧
      ∃ (stats : ExecUnit → UnitStats) (members : ExecUnit → List Task)
        (taskEntries : ExecUnit → List String) (edgeEntries : List String),
        timeline.report = Command.lines
          (headerLine rows.length options.tracked ::
            ((ExecUnit.all.flatMap fun u => statisticsLine u (stats u) :: taskEntries u) ++
              edgeCountLine edges.length :: edgeEntries)) ∧
        lineFeeds (headerLine rows.length options.tracked) = 0 ∧
        lineFeeds (edgeCountLine edges.length) = 0 ∧
        (∀ u, summary.get u = some (stats u) ∧ lineFeeds (statisticsLine u (stats u)) = 0 ∧
          Listed u timeline.tasks (members u) ∧
          List.Forall₂ (ShowsTask rows u) (members u) (taskEntries u)) ∧
        ((ExecUnit.all.flatMap members).map Task.id).Perm (List.range rows.length) ∧
        List.Forall₂ (ShowsEdge rows) edges edgeEntries := by
  obtain rfl := run_with_lanes_and_edges finished laned linked
  have unlaned := allocated_unlaned (buildTasks options.checkOrder rows).tasks
  have numbered : Numbered (complete rows options).tasks :=
    numbered_of_unlaned_eq unlaned (build_tasks_numbered _ rows)
  have same : (complete rows options).tasks.map Task.row = rows := by
    rw [complete_tasks, allocated_rows, built_rows]
  have allLaned := allocated_tasks_have_lanes (buildTasks options.checkOrder rows).tasks
  refine ⟨_, _, rfl, rfl, fun u => unitStats u (buildTasks options.checkOrder rows).tasks,
    fun u => unitMembers u (complete rows options).tasks, _, _, complete_report rows options,
    header_on_one_line _ _, edge_count_on_one_line _, ?_, ?_, ?_⟩
  · intro u
    refine ⟨allocated_stats u _, statistics_on_one_line u _, allocated_unit_listed numbered u, ?_⟩
    rw [List.forall₂_map_right_iff, List.forall₂_same]
    intro task listed
    obtain ⟨member, rfl⟩ := mem_unit_members.mp listed
    exact lane_entry_shows same numbered member (allLaned task member)
  · have perm : (ExecUnit.all.flatMap fun u => unitMembers u (complete rows options).tasks).Perm
        (complete rows options).tasks :=
      (List.Perm.flatMap_left _ fun u _ => List.mergeSort_perm _ _).trans (units_perm _)
    have ids := perm.map Task.id
    rw [numbered_ids numbered, complete_tasks, allocated_length, build_tasks_length] at ids
    exact ids
  · rw [List.forall₂_map_right_iff, List.forall₂_same]
    intro edge member
    have wellRead := well_read_of_unlaned_eq unlaned (built_tasks_well_read _ rows)
    rw [← resolve_of_unlaned_eq options.tracked unlaned] at member
    obtain ⟨_, _, producerFound, consumerFound, _⟩ := resolved_edge_ends numbered wellRead member
    exact edge_entry_shows same producerFound consumerFound

/-- The last scalar row goes to the first lane, and the vector task reads what the first row wrote. -/
theorem report_of_four_rows :
    let rows : List Row := [⟨"addi a0,a1,1", .scalar, 4, 6, none⟩,
      ⟨"vfmacc.vf v0,a0,v8", .vector, 6, 9, none⟩, ⟨"addi a2,a0,3", .scalar, 1, 5, none⟩,
      ⟨"addi a3,a3,1", .scalar, 0, 1, none⟩]
    ∃ timeline entries members, (run rows Pass.all ⟨.default, true⟩).2 = .ok timeline ∧
      timeline.lanes.isSome = true ∧ timeline.edges.isSome = true ∧
      timeline.report = Command.lines (entries ++
        ["edges: 1", "  #0 -> #1 (a0): addi a0,a1,1 -> vfmacc.vf v0,a0,v8"]) ∧
      Listed .scalar timeline.tasks members ∧ members.length = 3 := by
  intro rows
  have finished : (run rows Pass.all ⟨.default, true⟩).2 = .ok (complete rows ⟨.default, true⟩) :=
    run_all_eq_ok_iff.mpr ⟨by decide, rfl⟩
  obtain ⟨_, edges, _, foundHere, stats, members, taskEntries, edgeEntries, report, _, _, units, _,
    shown⟩ := report_lists_everything_once finished rfl rfl
  have same : edges = [⟨0, 1, "a0"⟩] := by
    rw [complete_edges, Option.some.injEq] at foundHere
    rw [← foundHere]
    decide +kernel
  subst same
  obtain ⟨_, _, listed, _⟩ := units .scalar
  have count : (members .scalar).length = 3 := by
    rw [listed.perm.length_eq]
    decide +kernel
  have counted : edgeCountLine [Edge.mk 0 1 "a0"].length = "edges: 1" := by decide
  cases shown with
  | @cons _ entry _ _ shows none =>
      cases none
      have text : entry = "  #0 -> #1 (a0): addi a0,a1,1 -> vfmacc.vf v0,a0,v8" := by
        obtain ⟨producer, consumer, isProducer, isConsumer, same⟩ := shows
        cases isProducer
        cases isConsumer
        rw [same]
        decide
      rw [counted, text, ← List.cons_append] at report
      exact ⟨_, _, members .scalar, finished, rfl, rfl, report, listed, count⟩

end Timeline

end Retirement
