import Retirement.Proofs.Lane.Allocation
import Retirement.Proofs.Lane.Optimality

/-!
Packing goes on where it stopped. Intervals that come later neither move those that have a lane nor
close a lane, and no cycle gets less busy; so allocation for a longer trace begins with the
allocation for its beginning, and no count goes down.
-/

namespace Retirement

theorem pack_into_append (lanes : List Lane) (first second : List Interval) :
    packInto lanes (first ++ second) =
      ((packInto lanes first).1 ++ (packInto (packInto lanes first).2 second).1,
        (packInto (packInto lanes first).2 second).2) := by
  induction first generalizing lanes with
  | nil => rfl
  | cons interval rest ih =>
      rw [List.cons_append, pack_into_cons, pack_into_cons, ih]
      rfl

theorem pack_append_assignments (first second : List Interval) :
    (pack (first ++ second)).assignments =
      (pack first).assignments ++ (packInto (packInto [] first).2 second).1 :=
  congrArg Prod.fst (pack_into_append [] first second)

theorem lanes_never_close (lanes : List Lane) (intervals : List Interval) :
    lanes.length ≤ (packInto lanes intervals).2.length := by
  induction intervals generalizing lanes with
  | nil => exact le_refl lanes.length
  | cons interval rest ih =>
      have kept : lanes.length ≤ (placeFirst lanes interval).2.length := by
        rw [place_first_length]
        exact le_max_left _ _
      exact kept.trans (ih (placeFirst lanes interval).2)

theorem lane_count_le_append (first second : List Interval) :
    (pack first).laneCount ≤ (pack (first ++ second)).laneCount := by
  change (packInto [] first).2.length ≤ (packInto [] (first ++ second)).2.length
  rw [pack_into_append]
  exact lanes_never_close (packInto [] first).2 second

theorem peak_le_of_alive_count_le {one other : List Interval}
    (less : ∀ cycle, aliveCount one cycle ≤ aliveCount other cycle) :
    peakOverlap one ≤ peakOverlap other := by
  obtain ⟨cycle, busiest⟩ := busiest_cycle_exists one
  calc
    peakOverlap one = aliveCount one cycle := busiest.symm
    _ ≤ aliveCount other cycle := less cycle
    _ ≤ peakOverlap other := alive_count_le_peak other cycle

theorem peak_le_append (first second : List Interval) :
    peakOverlap first ≤ peakOverlap (first ++ second) := by
  apply peak_le_of_alive_count_le
  intro cycle
  rw [alive_count_append]
  exact Nat.le_add_right _ _

theorem peak_le_append_left (first second : List Interval) :
    peakOverlap second ≤ peakOverlap (first ++ second) := by
  apply peak_le_of_alive_count_le
  intro cycle
  rw [alive_count_append]
  exact Nat.le_add_left _ _

theorem unit_intervals_append (u : ExecUnit) (tasks later : List Task) :
    unitIntervals u (tasks ++ later) = unitIntervals u tasks ++ unitIntervals u later := by
  unfold unitIntervals
  rw [List.filter_append, List.map_append]

structure UnitStats.AtMost (one other : UnitStats) : Prop where
  taskCount : one.taskCount ≤ other.taskCount
  laneCount : one.laneCount ≤ other.laneCount
  peakOverlap : one.peakOverlap ≤ other.peakOverlap

theorem unit_stats_grow (u : ExecUnit) (tasks later : List Task) :
    (unitStats u tasks).AtMost (unitStats u (tasks ++ later)) := by
  have append := unit_intervals_append u tasks later
  constructor
  · change _ ≤ (unitIntervals u (tasks ++ later)).length
    rw [append, List.length_append]
    exact Nat.le_add_right _ _
  · change _ ≤ (pack (unitIntervals u (tasks ++ later))).laneCount
    rw [append]
    exact lane_count_le_append _ _
  · change _ ≤ peakOverlap (unitIntervals u (tasks ++ later))
    rw [append]
    exact peak_le_append _ _

theorem unit_tasks_cons_own {u : ExecUnit} {task : Task} (own : task.unit = u)
    (rest : List Task) : unitTasks u (task :: rest) = task :: unitTasks u rest :=
  List.filter_cons_of_pos (p := fun task : Task => task.unit = u) (decide_eq_true own)

theorem unit_tasks_cons_other {u : ExecUnit} {task : Task} (other : task.unit ≠ u)
    (rest : List Task) : unitTasks u (task :: rest) = unitTasks u rest :=
  List.filter_cons_of_neg (p := fun task : Task => task.unit = u) (by simpa using other)

theorem give_lanes_skip {u : ExecUnit} {task : Task} (other : task.unit ≠ u) (lanes : List Nat)
    (rest : List Task) : giveLanes u lanes (task :: rest) = task :: giveLanes u lanes rest := by
  cases lanes with
  | nil => rw [give_no_lanes, give_no_lanes]
  | cons lane lanes => rw [giveLanes, if_neg other]

theorem give_lanes_append (u : ExecUnit) {lanes : List Nat} {tasks : List Task}
    (enough : lanes.length = (unitTasks u tasks).length) (more : List Nat) (later : List Task) :
    giveLanes u (lanes ++ more) (tasks ++ later) =
      giveLanes u lanes tasks ++ giveLanes u more later := by
  induction tasks generalizing lanes with
  | nil =>
      have noLanes : lanes = [] := List.length_eq_zero_iff.mp enough
      rw [noLanes, give_no_lanes]
      rfl
  | cons task rest ih =>
      by_cases own : task.unit = u
      · rw [unit_tasks_cons_own own, List.length_cons] at enough
        obtain ⟨lane, others, rfl⟩ := List.exists_cons_of_length_eq_add_one enough
        rw [List.cons_append, List.cons_append, giveLanes, if_pos own, giveLanes, if_pos own,
          ih (Nat.succ.inj enough)]
        rfl
      · rw [unit_tasks_cons_other own] at enough
        rw [List.cons_append, give_lanes_skip own, give_lanes_skip own, ih enough]
        rfl

theorem lane_unit_begins (u : ExecUnit) {tasks longer : List Task} (begins : tasks <+: longer) :
    laneUnit u tasks <+: laneUnit u longer := by
  obtain ⟨later, rfl⟩ := begins
  unfold laneUnit
  rw [unit_intervals_append, pack_append_assignments,
    give_lanes_append u (unit_assignments_length u tasks)]
  exact List.prefix_append _ _

/-- The passes over the three units each keep the beginning, whatever the earlier ones wrote. -/
theorem allocated_begins {tasks longer : List Task} (begins : tasks <+: longer) :
    (allocateLanes tasks).1 <+: (allocateLanes longer).1 := by
  change ExecUnit.all.foldl (fun tasks u => laneUnit u tasks) tasks <+:
    ExecUnit.all.foldl (fun tasks u => laneUnit u tasks) longer
  induction ExecUnit.all generalizing tasks longer with
  | nil => exact begins
  | cons u units ih => exact ih (lane_unit_begins u begins)

end Retirement
