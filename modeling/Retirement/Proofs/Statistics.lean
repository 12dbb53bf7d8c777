import Retirement.Proofs.Lane.Optimality
import Retirement.Proofs.Run

/-!
What the statistics of a run say about its tasks. The lanes that the tasks of a unit use are numbered
from zero without a gap, a unit has no more lanes than tasks and no fewer than its busiest cycle
needs, and only a unit without tasks is never busy, because a run that succeeds has no empty row.
-/

namespace Retirement

structure UnitStats.Describes (stats : UnitStats) (tasks : List Task) : Prop where
  counted : stats.taskCount = tasks.length
  laned : ∀ task ∈ tasks, ∃ number < stats.laneCount, task.lane = some number
  gapless : ∀ number < stats.laneCount, ∃ task ∈ tasks, task.lane = some number
  peak_le : stats.peakOverlap ≤ stats.laneCount
  lanes_le : stats.laneCount ≤ stats.taskCount
  idle : stats.peakOverlap = 0 → tasks = []

theorem unit_intervals_length (u : ExecUnit) (tasks : List Task) :
    (unitIntervals u tasks).length = (unitTasks u tasks).length := by
  rw [unitIntervals, List.length_map]
  rfl

theorem allocated_unit_length (u : ExecUnit) (tasks : List Task) :
    (unitTasks u (allocateLanes tasks).1).length = (unitTasks u tasks).length := by
  have lanes := congrArg List.length (allocated_unit_lanes u tasks)
  rw [List.length_map, List.length_map, unit_assignments_length] at lanes
  exact lanes

theorem allocated_lane_iff (u : ExecUnit) (tasks : List Task) (number : Nat) :
    (∃ task ∈ unitTasks u (allocateLanes tasks).1, task.lane = some number) ↔
      number < (unitStats u tasks).laneCount := by
  change _ ↔ number < (pack (unitIntervals u tasks)).laneCount
  rw [← List.mem_map, allocated_unit_lanes, lane_open_iff_used]
  exact List.mem_map_of_injective (Option.some_injective Nat)

theorem unit_stats_describe {tasks : List Task}
    (proper : ∀ task ∈ tasks, ¬ task.interval.IsEmpty) (u : ExecUnit) :
    (unitStats u tasks).Describes (unitTasks u (allocateLanes tasks).1) where
  counted := by
    rw [allocated_unit_length]
    exact unit_intervals_length u tasks
  laned := by
    intro task member
    have inTrace : task ∈ (allocateLanes tasks).1 := List.mem_of_mem_filter member
    obtain ⟨number, lane⟩ := Option.isSome_iff_exists.mp (allocated_tasks_have_lanes tasks task inTrace)
    have used := (allocated_lane_iff u tasks number).mp ⟨task, member, lane⟩
    exact ⟨number, used, lane⟩
  gapless := by
    intro number below
    exact (allocated_lane_iff u tasks number).mpr below
  peak_le := peak_le_lane_count (unitIntervals u tasks)
  lanes_le := lane_count_le_length (unitIntervals u tasks)
  idle := by
    intro never
    apply List.eq_nil_of_length_eq_zero
    rw [allocated_unit_length, List.length_eq_zero_iff, List.eq_nil_iff_forall_not_mem]
    intro task member
    have present : task.interval ∈ unitIntervals u tasks := List.mem_map_of_mem member
    have busy := peak_pos_of_mem present (proper task (List.mem_of_mem_filter member))
    exact absurd never busy.ne'

theorem UnitStats.Describes.no_lanes_iff {stats : UnitStats} {tasks : List Task}
    (describes : stats.Describes tasks) : stats.laneCount = 0 ↔ tasks = [] := by
  constructor
  · intro noLanes
    apply describes.idle
    exact Nat.le_zero.mp (noLanes ▸ describes.peak_le)
  · intro noTasks
    have none : stats.taskCount = 0 := by rw [describes.counted, noTasks, List.length_nil]
    exact Nat.le_zero.mp (none ▸ describes.lanes_le)

theorem unit_lengths_sum (tasks : List Task) :
    (unitTasks .scalar tasks).length + (unitTasks .fp tasks).length +
      (unitTasks .vector tasks).length = tasks.length := by
  have lengths := (units_perm tasks).length_eq
  simpa [ExecUnit.all, Nat.add_assoc] using lengths

theorem no_tasks_iff (tasks : List Task) : tasks = [] ↔ ∀ u, unitTasks u tasks = [] := by
  constructor
  · intro nothing u
    rw [nothing]
    rfl
  · intro nothing
    apply List.eq_nil_of_length_eq_zero
    rw [← unit_lengths_sum, nothing, nothing, nothing]
    rfl

def addedLanes (entries : List (ExecUnit × UnitStats)) : Nat :=
  entries.foldl (fun total entry => total + entry.2.laneCount) 0

theorem added_lanes_append (part rest : List (ExecUnit × UnitStats)) :
    addedLanes (part ++ rest) =
      rest.foldl (fun total entry => total + entry.2.laneCount) (addedLanes part) :=
  List.foldl_append

theorem added_lanes_le_of_prefix {part entries : List (ExecUnit × UnitStats)}
    (begins : part <+: entries) : addedLanes part ≤ addedLanes entries := by
  obtain ⟨rest, rfl⟩ := begins
  induction rest using List.reverseRecOn with
  | nil => rw [List.append_nil]
  | append_singleton earlier entry ih =>
      apply ih.trans
      rw [← List.append_assoc, added_lanes_append (part ++ earlier)]
      exact Nat.le_add_right _ entry.2.laneCount

theorem allocated_total_lanes (tasks : List Task) :
    (allocateLanes tasks).2.totalLanes =
      (unitStats .scalar tasks).laneCount + (unitStats .fp tasks).laneCount +
        (unitStats .vector tasks).laneCount :=
  congrArg (· + _ + _) (Nat.zero_add _)

theorem allocated_total_lanes_le (tasks : List Task) :
    (allocateLanes tasks).2.totalLanes ≤ tasks.length := by
  have bound : ∀ u, (unitStats u tasks).laneCount ≤ (unitTasks u tasks).length := by
    intro u
    rw [← unit_intervals_length]
    exact lane_count_le_length (unitIntervals u tasks)
  rw [allocated_total_lanes, ← unit_lengths_sum]
  exact Nat.add_le_add (Nat.add_le_add (bound .scalar) (bound .fp)) (bound .vector)

theorem allocated_max_lane_count (tasks : List Task) :
    (allocateLanes tasks).2.maxLaneCount = 0 ↔ ∀ u, (unitStats u tasks).laneCount = 0 := by
  change max (max (max 0 _) _) _ = 0 ↔ _
  rw [Nat.max_eq_zero_iff, Nat.max_eq_zero_iff, Nat.zero_max]
  constructor
  · intro none u
    cases u with
    | scalar => exact none.1.1
    | fp => exact none.1.2
    | vector => exact none.2
  · intro none
    exact ⟨⟨none .scalar, none .fp⟩, none .vector⟩

namespace Timeline

/-- The summary of a run agrees with its tasks. Every unit has an entry, which counts the unit's
tasks, and whose lanes are those that the tasks use, without a gap; a unit has between as many lanes
as its busiest cycle needs and as many as it has tasks, and is never busy only if it has none. So all
lanes together are no more than the tasks, no sum on the way to them leaves 32 bits, and the widest
unit has no lane only if there is no task at all. -/
theorem summary_agrees_with_tasks {rows : List Row} {targets : List Pass} {options : Options}
    {timeline : Timeline} (finished : (run rows targets options).2 = .ok timeline)
    (included : .allocateLanes ∈ Pass.schedule targets) :
    ∃ summary, timeline.lanes = some summary ∧
      (∀ u, ∃ stats, summary.get u = some stats ∧
        stats.Describes (unitTasks u timeline.tasks)) ∧
      summary.totalLanes ≤ timeline.tasks.length ∧
      (rows.length < 2 ^ 31 → ∀ part, part <+: summary.entries → addedLanes part < 2 ^ 32) ∧
      (summary.maxLaneCount = 0 ↔ timeline.tasks = []) := by
  have wanted : targets ≠ [] := by
    intro nothing
    rw [nothing] at included
    contradiction
  rw [Pass.schedule_eq_building_then_targets wanted, List.mem_cons] at included
  have asked := (Pass.mem_later_targets.mp (included.resolve_left Pass.noConfusion)).1
  obtain ⟨proper, rfl⟩ := (run_eq_ok_iff wanted).mp finished
  let built := (buildTasks options.checkOrder rows).tasks
  have tasks : (made (buildTasks options.checkOrder rows) options.tracked targets).tasks =
      (allocateLanes built).1 := if_pos asked
  have nonempty : ∀ task ∈ built, ¬ task.interval.IsEmpty := by
    intro task member empty
    obtain ⟨position, found⟩ := List.mem_iff_getElem?.mp member
    rw [build_tasks_getElem, Option.map_eq_some_iff] at found
    obtain ⟨row, isRow, rfl⟩ := found
    exact proper ⟨row, List.mem_of_getElem? isRow, empty⟩
  have describes := unit_stats_describe nonempty
  have total := allocated_total_lanes_le built
  have count : built.length = rows.length := build_tasks_length options.checkOrder rows
  refine ⟨(allocateLanes built).2, if_pos asked, ?_, ?_, ?_, ?_⟩
  · intro u
    rw [tasks]
    exact ⟨unitStats u built, allocated_stats u built, describes u⟩
  · rw [tasks, allocated_length]
    exact total
  · intro small part begins
    have bound : addedLanes part ≤ (allocateLanes built).2.totalLanes :=
      added_lanes_le_of_prefix begins
    omega
  · rw [tasks, allocated_max_lane_count, no_tasks_iff]
    exact forall_congr' fun u => (describes u).no_lanes_iff

/-- The two scalar tasks overlap and share no lane, the vector task is alone, and no task is left for
the third unit. -/
theorem summary_of_three_tasks :
    let rows : List Row := [⟨"addi a0,a1,1", .scalar, 0, 4, none⟩,
      ⟨"ld a2,0(a0)", .scalar, 1, 3, none⟩, ⟨"vle32.v v0,(a2)", .vector, 4, 9, none⟩]
    ∃ timeline summary, (run rows [.resolveDeps, .allocateLanes] ⟨.all, true⟩).2 = .ok timeline ∧
      timeline.lanes = some summary ∧
      (∃ stats, summary.get .scalar = some stats ∧
        stats.Describes (unitTasks .scalar timeline.tasks)) ∧
      summary.totalLanes ≤ 3 ∧ addedLanes (summary.entries.take 2) < 2 ^ 32 ∧
      summary.maxLaneCount ≠ 0 := by
  intro rows
  have finished : (run rows [.resolveDeps, .allocateLanes] ⟨.all, true⟩).2 =
      .ok (made (buildTasks true rows) .all [.resolveDeps, .allocateLanes]) :=
    (run_eq_ok_iff (List.cons_ne_nil _ _)).mpr ⟨by decide, rfl⟩
  obtain ⟨summary, laned, describes, total, sums, widest⟩ :=
    summary_agrees_with_tasks finished (by decide)
  have occupied : ¬ (made (buildTasks true rows) .all [.resolveDeps, .allocateLanes]).tasks = [] := by
    decide
  exact ⟨_, summary, finished, laned, describes .scalar, total,
    sums (by decide) _ (List.take_prefix 2 summary.entries), occupied ∘ widest.mp⟩

end Timeline

end Retirement
