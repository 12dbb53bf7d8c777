import Retirement.Lane.Check
import Retirement.Proofs.Lane.Allocation

/-!
The check of lanes. Sorting a lane and looking at neighbours is enough to see whether two of its
intervals overlap, as long as none is empty, and otherwise all pairs are looked at; so the test of
one lane is exact. Allocated lanes always pass the check, because each unit is packed by itself.
-/

namespace Retirement

theorem pairs_disjoint_iff (intervals : List Interval) :
    pairsDisjoint intervals = true ↔ OverlapFree intervals := by
  induction intervals with
  | nil => simp [pairsDisjoint, OverlapFree]
  | cons first rest ih =>
      rw [OverlapFree, List.pairwise_cons, ← OverlapFree, ← ih]
      simp [pairsDisjoint]

theorem neighbours_disjoint_of_disjoint {intervals : List Interval}
    (disjoint : OverlapFree intervals) : neighboursDisjoint intervals = true := by
  induction intervals with
  | nil => rfl
  | cons first rest ih =>
      obtain ⟨apart, later⟩ := List.pairwise_cons.mp disjoint
      cases rest with
      | nil => rfl
      | cons second rest =>
          rw [neighboursDisjoint, Bool.and_eq_true, decide_eq_true_eq]
          exact ⟨apart second (by simp), ih later⟩

/-- In order and without empty intervals each neighbour starts where the one before it has ended,
and so does everything after the neighbour. -/
theorem disjoint_of_neighbours {intervals : List Interval}
    (ordered : intervals.Pairwise (· ≤ ·)) (nonempty : ∀ i ∈ intervals, ¬ i.IsEmpty)
    (neighbours : neighboursDisjoint intervals = true) : OverlapFree intervals := by
  induction intervals with
  | nil => exact List.Pairwise.nil
  | cons first rest ih =>
      obtain ⟨lowest, laterOrdered⟩ := List.pairwise_cons.mp ordered
      have laterNonempty : ∀ i ∈ rest, ¬ i.IsEmpty :=
        fun i member => nonempty i (List.mem_cons_of_mem first member)
      cases rest with
      | nil => exact List.pairwise_singleton _ first
      | cons second rest =>
          rw [neighboursDisjoint, Bool.and_eq_true, decide_eq_true_eq] at neighbours
          refine List.pairwise_cons.mpr ⟨?_, ih laterOrdered laterNonempty neighbours.2⟩
          have ends := Interval.stop_le_start_of_disjoint
            (Interval.start_le_of_le (lowest second (by simp))) (laterNonempty second (by simp))
            neighbours.1
          intro later member overlap
          have starts : second.start ≤ later.start := by
            rcases List.mem_cons.mp member with same | after
            · rw [same]
            · exact Interval.start_le_of_le ((List.pairwise_cons.mp laterOrdered).1 later after)
          have before := overlap.2
          omega

theorem lane_disjoint_iff (intervals : List Interval) :
    laneDisjoint intervals = true ↔ OverlapFree intervals := by
  let sorted := intervals.mergeSort fun first second => decide (first ≤ second)
  have perm : sorted.Perm intervals := List.mergeSort_perm _ _
  have ordered : sorted.Pairwise (· ≤ ·) := by
    have sortedByTest : sorted.Pairwise fun first second => decide (first ≤ second) = true := by
      apply List.pairwise_mergeSort
      · intro first second third lower upper
        rw [decide_eq_true_eq] at *
        exact Interval.le_trans lower upper
      · intro first second
        rw [Bool.or_eq_true, decide_eq_true_eq, decide_eq_true_eq]
        exact Interval.le_total first second
    simpa only [decide_eq_true_eq] using sortedByTest
  rw [← overlap_free_perm perm]
  change (neighboursDisjoint sorted &&
    ((sorted.all fun i => decide (¬ i.IsEmpty)) || pairsDisjoint sorted)) = true ↔ _
  rw [Bool.and_eq_true, Bool.or_eq_true, List.all_eq_true, pairs_disjoint_iff]
  constructor
  · intro passed
    rcases passed.2 with nonempty | disjoint
    · exact disjoint_of_neighbours ordered (by simpa using nonempty) passed.1
    · exact disjoint
  · intro disjoint
    exact ⟨neighbours_disjoint_of_disjoint disjoint, Or.inr disjoint⟩

example : neighboursDisjoint [⟨0, 10⟩, ⟨3, 0⟩, ⟨5, 5⟩] = true ∧
    laneDisjoint [⟨5, 5⟩, ⟨0, 10⟩, ⟨3, 0⟩] = false := ⟨by decide, by cbv⟩

theorem has_own_lane_iff {summary : LaneSummary} {task : Task} :
    hasOwnLane summary task = true ↔
      ∃ lane, task.lane = some lane ∧ lane < summary.laneCount task.unit := by
  unfold hasOwnLane
  cases task.lane <;> simp

theorem mem_used_lanes {u : ExecUnit} {lane : Nat} {tasks : List Task} :
    lane ∈ usedLanes u tasks ↔ ∃ task ∈ tasks, task.unit = u ∧ task.lane = some lane := by
  unfold usedLanes
  simp [and_assoc]

def Task.SharesLane (first second : Task) : Prop :=
  first.unit = second.unit ∧ ∃ lane, first.lane = some lane ∧ second.lane = some lane

theorem Task.apart_symm {first second : Task}
    (apart : first.SharesLane second → ¬ first.interval.Overlaps second.interval) :
    second.SharesLane first → ¬ second.interval.Overlaps first.interval := by
  intro shared overlap
  obtain ⟨sameUnit, lane, secondLane, firstLane⟩ := shared
  exact apart ⟨sameUnit.symm, lane, firstLane, secondLane⟩ overlap.symm

theorem lane_intervals_overlap_free_iff (u : ExecUnit) (lane : Nat) (tasks : List Task) :
    OverlapFree (laneIntervals u lane tasks) ↔
      tasks.Pairwise fun first second => first.unit = u ∧ first.lane = some lane →
        second.unit = u ∧ second.lane = some lane →
          ¬ first.interval.Overlaps second.interval := by
  rw [OverlapFree, laneIntervals, List.pairwise_map, List.pairwise_filter]
  simp only [Bool.and_eq_true, decide_eq_true_eq, beq_iff_eq]

/-- Looking at each lane in use by itself misses no pair: tasks that share a lane meet in it. -/
theorem lanes_disjoint_iff_pairwise (tasks : List Task) (summary : LaneSummary) :
    (checkLanes tasks summary).lanesDisjoint = true ↔
      tasks.Pairwise fun first second =>
        first.SharesLane second → ¬ first.interval.Overlaps second.interval := by
  have perLane : (checkLanes tasks summary).lanesDisjoint = true ↔
      ∀ u ∈ ExecUnit.all, ∀ lane ∈ usedLanes u tasks,
        OverlapFree (laneIntervals u lane tasks) := by
    simp only [checkLanes, List.all_eq_true, lane_disjoint_iff]
  rw [perLane]
  constructor
  · intro disjoint
    rw [List.pairwise_iff_getElem]
    intro i j iBound jBound before shared
    obtain ⟨sameUnit, lane, firstLane, secondLane⟩ := shared
    have used : lane ∈ usedLanes tasks[i].unit tasks :=
      mem_used_lanes.mpr ⟨tasks[i], List.getElem_mem iBound, rfl, firstLane⟩
    have apart := disjoint tasks[i].unit (ExecUnit.mem_all _) lane used
    rw [lane_intervals_overlap_free_iff, List.pairwise_iff_getElem] at apart
    exact apart i j iBound jBound before ⟨rfl, firstLane⟩ ⟨sameUnit.symm, secondLane⟩
  · intro apart u _ lane _
    rw [lane_intervals_overlap_free_iff]
    apply apart.imp
    intro first second disjoint firstHere secondHere
    exact disjoint ⟨firstHere.1.trans secondHere.1.symm, lane, firstHere.2, secondHere.2⟩

theorem allocated_lane_intervals (u : ExecUnit) (number : Nat) (tasks : List Task) :
    laneIntervals u number (allocateLanes tasks).1 =
      ((placements (unitIntervals u tasks)).filter fun entry => entry.2 == number).map
        Prod.fst := by
  have split : laneIntervals u number (allocateLanes tasks).1 =
      ((unitTasks u (allocateLanes tasks).1).filter fun task => task.lane == some number).map
        Task.interval := by
    rw [laneIntervals, unitTasks, List.filter_filter]
    simp only [Bool.and_comm]
  have zipped : placements (unitIntervals u tasks) =
      ((unitTasks u tasks).zip (pack (unitIntervals u tasks)).assignments).map
        fun entry => (entry.1.interval, entry.2) := by
    conv => lhs; rw [placements, unitIntervals, ← unitTasks]
    rw [List.zip_map_left]
    rfl
  rw [split, allocated_unit_tasks, zipped, ← List.map_uncurry_zip_eq_zipWith, List.filter_map,
    List.map_map, List.filter_map, List.map_map]
  rfl

theorem allocated_lanes_disjoint (u : ExecUnit) (number : Nat) (tasks : List Task) :
    OverlapFree (laneIntervals u number (allocateLanes tasks).1) := by
  rw [allocated_lane_intervals, OverlapFree, List.pairwise_map, List.pairwise_filter]
  apply (placements_disjoint (unitIntervals u tasks)).imp
  intro first second disjoint firstHere secondHere
  rw [beq_iff_eq] at firstHere secondHere
  exact disjoint (firstHere.trans secondHere.symm)

theorem allocated_task_has_own_lane {tasks : List Task} {task : Task}
    (member : task ∈ (allocateLanes tasks).1) :
    hasOwnLane (allocateLanes tasks).2 task = true := by
  have inUnit : task ∈ unitTasks task.unit (allocateLanes tasks).1 :=
    List.mem_filter.mpr ⟨member, decide_eq_true rfl⟩
  rw [allocated_unit_tasks, ← List.map_uncurry_zip_eq_zipWith, List.mem_map] at inUnit
  obtain ⟨⟨before, number⟩, entry, same⟩ := inUnit
  have assigned := (List.of_mem_zip entry).2
  rw [← lane_open_iff_used, ← allocated_lane_count] at assigned
  have lane : task.lane = some number := by
    rw [← same]
    rfl
  rw [hasOwnLane, lane]
  exact decide_eq_true assigned

theorem allocated_tasks_have_lanes (tasks : List Task) :
    ∀ task ∈ (allocateLanes tasks).1, task.lane.isSome = true := by
  intro task member
  obtain ⟨lane, given, _⟩ := has_own_lane_iff.mp (allocated_task_has_own_lane member)
  rw [given]
  rfl

/-- Whatever tasks lanes are allocated to, the lanes pass their check. -/
theorem allocated_lanes_pass (tasks : List Task) :
    checkLanes (allocateLanes tasks).1 (allocateLanes tasks).2 = ⟨true, true⟩ := by
  rw [checkLanes, LaneCheck.mk.injEq]
  constructor
  · rw [List.all_eq_true]
    intro task member
    exact allocated_task_has_own_lane member
  · rw [List.all_eq_true]
    intro u _
    rw [List.all_eq_true]
    intro number _
    rw [lane_disjoint_iff]
    exact allocated_lanes_disjoint u number tasks

theorem allocated_tasks_apart (tasks : List Task) : (allocateLanes tasks).1.Pairwise
    fun first second => first.SharesLane second → ¬ first.interval.Overlaps second.interval := by
  apply (lanes_disjoint_iff_pairwise _ (allocateLanes tasks).2).mp
  rw [allocated_lanes_pass]

/-- The check is exact. It finds every task that has no lane of its unit, and every overlap between
two tasks in one lane, also where an empty interval hides it from all neighbours. What allocation
makes passes. -/
theorem lane_check_is_exact :
    (∀ (tasks : List Task) (summary : LaneSummary),
      ((checkLanes tasks summary).allLaned = true ↔ ∀ task ∈ tasks,
          ∃ lane, task.lane = some lane ∧ lane < summary.laneCount task.unit) ∧
        ((checkLanes tasks summary).lanesDisjoint = true ↔
          ∀ (i j : Nat) (first second : Task), i ≠ j → tasks[i]? = some first →
            tasks[j]? = some second → first.SharesLane second →
              ¬ first.interval.Overlaps second.interval)) ∧
      ∀ tasks : List Task,
        checkLanes (allocateLanes tasks).1 (allocateLanes tasks).2 = ⟨true, true⟩ := by
  refine ⟨fun tasks summary => ⟨?_, ?_⟩, allocated_lanes_pass⟩
  · simp only [checkLanes, List.all_eq_true, has_own_lane_iff]
  · rw [lanes_disjoint_iff_pairwise]
    apply pairwise_iff_at_positions
    exact fun _ _ => Task.apart_symm

end Retirement
