import Mathlib.Data.List.Nodup
import Retirement.Lane.Summary
import Retirement.Proofs.Lane.FirstFit

/-!
Allocation unit by unit. Packing one unit writes the lanes of its own tasks and leaves all others
alone, so that whatever the interleaving, the tasks of a unit end up with the lanes that packing
gives to their intervals. Nothing but lanes is written.
-/

namespace Retirement

def Task.inLane (task : Task) (number : Nat) : Task := { task with lane := some number }

def Task.unlaned (task : Task) : Task := { task with lane := none }

def unitTasks (u : ExecUnit) (tasks : List Task) : List Task :=
  tasks.filter fun task => task.unit = u

theorem units_perm_filter {units : List ExecUnit} (distinct : units.Nodup) (tasks : List Task) :
    (units.flatMap fun u => unitTasks u tasks).Perm
      (tasks.filter fun task => task.unit ∈ units) := by
  induction units with
  | nil => simp
  | cons u units ih =>
      obtain ⟨fresh, distinct⟩ := List.nodup_cons.mp distinct
      have own : (tasks.filter fun task => task.unit ∈ u :: units).filter
          (fun task => task.unit = u) = unitTasks u tasks := by
        rw [List.filter_filter, unitTasks]
        apply List.filter_congr
        intro task _
        by_cases here : task.unit = u <;> simp [here]
      have others : (tasks.filter fun task => task.unit ∈ u :: units).filter
          (fun task => !decide (task.unit = u)) = tasks.filter fun task => task.unit ∈ units := by
        rw [List.filter_filter]
        apply List.filter_congr
        intro task _
        by_cases here : task.unit = u <;> simp [here, fresh]
      have split := List.filter_append_perm (fun task : Task => decide (task.unit = u))
        (tasks.filter fun task => task.unit ∈ u :: units)
      rw [own, others] at split
      exact ((ih distinct).append_left _).trans split

/-- Every task is in one unit. -/
theorem units_perm (tasks : List Task) :
    (ExecUnit.all.flatMap fun u => unitTasks u tasks).Perm tasks := by
  have perm := units_perm_filter (by decide : ExecUnit.all.Nodup) tasks
  rwa [List.filter_eq_self.mpr fun task _ => decide_eq_true task.unit.mem_all] at perm

theorem give_no_lanes (u : ExecUnit) (tasks : List Task) : giveLanes u [] tasks = tasks := by
  cases tasks <;> rfl

theorem give_lanes_unlaned (u : ExecUnit) (lanes : List Nat) (tasks : List Task) :
    (giveLanes u lanes tasks).map Task.unlaned = tasks.map Task.unlaned := by
  induction tasks generalizing lanes with
  | nil => simp [giveLanes]
  | cons task rest ih =>
      cases lanes with
      | nil => rfl
      | cons lane lanes =>
          rw [giveLanes]
          split_ifs
          · rw [List.map_cons, List.map_cons, ih]
            rfl
          · rw [List.map_cons, List.map_cons, ih]

theorem lane_unit_intervals (u : ExecUnit) (tasks : List Task) :
    (laneUnit u tasks).map Task.interval = tasks.map Task.interval := by
  have intervals := congrArg (List.map Task.interval) (give_lanes_unlaned u
    (pack (unitIntervals u tasks)).assignments tasks)
  rw [List.map_map, List.map_map] at intervals
  exact intervals

/-- A change of tasks that keeps their units and has nothing to do with their lanes. -/
structure Task.SparesLanes (change : Task → Task) : Prop where
  unit : ∀ task, (change task).unit = task.unit
  inLane : ∀ task number, change (task.inLane number) = (change task).inLane number

theorem give_lanes_map {change : Task → Task} (spares : Task.SparesLanes change) (u : ExecUnit)
    (lanes : List Nat) (tasks : List Task) :
    giveLanes u lanes (tasks.map change) = (giveLanes u lanes tasks).map change := by
  induction tasks generalizing lanes with
  | nil => rw [List.map_nil, giveLanes, List.map_nil]
  | cons task rest ih =>
      cases lanes with
      | nil => rw [give_no_lanes, give_no_lanes]
      | cons lane lanes =>
          rw [List.map_cons, giveLanes, giveLanes, spares.unit]
          split_ifs
          · rw [ih, List.map_cons]
            exact congrArg (· :: _) (spares.inLane task lane).symm
          · rw [ih, List.map_cons]

/-- Allocation commutes with a change of tasks under which every unit is packed as before. -/
theorem allocated_map {change : Task → Task} (spares : Task.SparesLanes change) {tasks : List Task}
    (packs : ∀ (u : ExecUnit) (list : List Task),
      list.map Task.interval = tasks.map Task.interval →
        pack (unitIntervals u (list.map change)) = pack (unitIntervals u list)) :
    (allocateLanes (tasks.map change)).1 = (allocateLanes tasks).1.map change := by
  change ExecUnit.all.foldl (fun tasks u => laneUnit u tasks) (tasks.map change) =
    (ExecUnit.all.foldl (fun tasks u => laneUnit u tasks) tasks).map change
  induction ExecUnit.all generalizing tasks with
  | nil => rfl
  | cons u units ih =>
      have first : laneUnit u (tasks.map change) = (laneUnit u tasks).map change := by
        rw [laneUnit, laneUnit, packs u tasks rfl]
        exact give_lanes_map spares u _ tasks
      rw [List.foldl_cons, List.foldl_cons, first]
      apply ih
      intro v list same
      exact packs v list (same.trans (lane_unit_intervals u tasks))

theorem give_lanes_other_unit {u v : ExecUnit} (different : v ≠ u) (lanes : List Nat)
    (tasks : List Task) : unitTasks v (giveLanes u lanes tasks) = unitTasks v tasks := by
  induction tasks generalizing lanes with
  | nil => simp [giveLanes]
  | cons task rest ih =>
      cases lanes with
      | nil => rfl
      | cons lane lanes =>
          simp only [unitTasks] at ih
          rw [giveLanes]
          split_ifs with own
          · have outside : task.unit ≠ v := fun same => different (same.symm.trans own)
            have outsideLaned : (task.inLane lane).unit ≠ v := outside
            simp only [unitTasks, List.filter_cons, decide_eq_true_eq]
            rw [if_neg outside, ih]
            exact if_neg outsideLaned
          · simp only [unitTasks, List.filter_cons, ih]

theorem give_lanes_own_unit (u : ExecUnit) {lanes : List Nat} {tasks : List Task}
    (enough : lanes.length = (unitTasks u tasks).length) :
    unitTasks u (giveLanes u lanes tasks) =
      List.zipWith Task.inLane (unitTasks u tasks) lanes := by
  induction tasks generalizing lanes with
  | nil => simp [giveLanes, unitTasks]
  | cons task rest ih =>
      simp only [unitTasks, List.filter_cons, decide_eq_true_eq] at ih enough ⊢
      cases lanes with
      | nil =>
          have noTasks := List.length_eq_zero_iff.mp enough.symm
          rw [noTasks, List.zipWith_nil_left, give_no_lanes]
          simpa [List.filter_cons] using noTasks
      | cons lane lanes =>
          rw [giveLanes]
          by_cases own : task.unit = u
          · have ownLaned : (task.inLane lane).unit = u := own
            rw [if_pos own] at enough ⊢
            rw [if_pos own, List.zipWith_cons_cons, ← ih (by simpa using enough)]
            exact List.filter_cons_of_pos (decide_eq_true ownLaned)
          · rw [if_neg own] at enough ⊢
            rw [if_neg own, ← ih enough]
            exact List.filter_cons_of_neg (by simpa using own)

theorem unit_assignments_length (u : ExecUnit) (tasks : List Task) :
    (pack (unitIntervals u tasks)).assignments.length = (unitTasks u tasks).length := by
  rw [pack_assigns_all, unitIntervals, List.length_map]
  rfl

theorem lane_unit_own (u : ExecUnit) (tasks : List Task) :
    unitTasks u (laneUnit u tasks) =
      List.zipWith Task.inLane (unitTasks u tasks) (pack (unitIntervals u tasks)).assignments := by
  apply give_lanes_own_unit
  exact unit_assignments_length u tasks

theorem lane_units_of_absent {units : List ExecUnit} {u : ExecUnit} (absent : u ∉ units)
    (tasks : List Task) :
    unitTasks u (units.foldl (fun tasks u => laneUnit u tasks) tasks) = unitTasks u tasks := by
  induction units generalizing tasks with
  | nil => rfl
  | cons v units ih =>
      rw [List.mem_cons, not_or] at absent
      rw [List.foldl_cons, ih absent.2]
      exact give_lanes_other_unit absent.1 _ tasks

theorem lane_units_of_mem {units : List ExecUnit} (distinct : units.Nodup) {u : ExecUnit}
    (present : u ∈ units) (tasks : List Task) :
    unitTasks u (units.foldl (fun tasks u => laneUnit u tasks) tasks) =
      List.zipWith Task.inLane (unitTasks u tasks) (pack (unitIntervals u tasks)).assignments := by
  induction units generalizing tasks with
  | nil => simp at present
  | cons v units ih =>
      obtain ⟨fresh, distinct⟩ := List.nodup_cons.mp distinct
      rw [List.foldl_cons]
      by_cases own : u = v
      · subst own
        rw [lane_units_of_absent fresh, lane_unit_own]
      · have untouched : unitTasks u (laneUnit v tasks) = unitTasks u tasks :=
          give_lanes_other_unit own _ tasks
        have later : u ∈ units := (List.mem_cons.mp present).resolve_left own
        have sameIntervals : unitIntervals u (laneUnit v tasks) = unitIntervals u tasks :=
          congrArg (List.map Task.interval) untouched
        rw [ih distinct later, untouched, sameIntervals]

theorem allocated_unit_tasks (u : ExecUnit) (tasks : List Task) :
    unitTasks u (allocateLanes tasks).1 =
      List.zipWith Task.inLane (unitTasks u tasks) (pack (unitIntervals u tasks)).assignments :=
  lane_units_of_mem (by decide) u.mem_all tasks

theorem lane_units_unlaned (units : List ExecUnit) (tasks : List Task) :
    (units.foldl (fun tasks u => laneUnit u tasks) tasks).map Task.unlaned =
      tasks.map Task.unlaned := by
  induction units generalizing tasks with
  | nil => rfl
  | cons v units ih =>
      rw [List.foldl_cons, ih]
      exact give_lanes_unlaned v _ tasks

theorem allocated_unlaned (tasks : List Task) :
    (allocateLanes tasks).1.map Task.unlaned = tasks.map Task.unlaned :=
  lane_units_unlaned ExecUnit.all tasks

theorem original_of_unlaned_eq {tasks others : List Task}
    (same : others.map Task.unlaned = tasks.map Task.unlaned) {task : Task}
    (member : task ∈ others) : ∃ original ∈ tasks, original.unlaned = task.unlaned := by
  apply List.mem_map.mp
  rw [← same]
  exact List.mem_map_of_mem member

theorem original_at_of_unlaned_eq {tasks others : List Task}
    (same : others.map Task.unlaned = tasks.map Task.unlaned) {position : Nat} {task : Task}
    (found : others[position]? = some task) :
    ∃ original, tasks[position]? = some original ∧ original.unlaned = task.unlaned := by
  have unlaned : (tasks.map Task.unlaned)[position]? = some task.unlaned := by
    rw [← same, List.getElem?_map, found, Option.map_some]
  rw [List.getElem?_map, Option.map_eq_some_iff] at unlaned
  exact unlaned

theorem allocated_rows (tasks : List Task) :
    (allocateLanes tasks).1.map Task.row = tasks.map Task.row := by
  have rows := congrArg (List.map Task.row) (allocated_unlaned tasks)
  rw [List.map_map, List.map_map] at rows
  exact rows

theorem allocated_length (tasks : List Task) : (allocateLanes tasks).1.length = tasks.length := by
  have unlaned := congrArg List.length (allocated_unlaned tasks)
  rwa [List.length_map, List.length_map] at unlaned

theorem allocated_stats (u : ExecUnit) (tasks : List Task) :
    (allocateLanes tasks).2.get u = some (unitStats u tasks) := by
  cases u <;> rfl

theorem allocated_lane_count (u : ExecUnit) (tasks : List Task) :
    (allocateLanes tasks).2.laneCount u = (pack (unitIntervals u tasks)).laneCount := by
  unfold LaneSummary.laneCount
  rw [allocated_stats]
  rfl

theorem allocated_unit_lanes (u : ExecUnit) (tasks : List Task) :
    (unitTasks u (allocateLanes tasks).1).map Task.lane =
      (pack (unitIntervals u tasks)).assignments.map some := by
  calc
    (unitTasks u (allocateLanes tasks).1).map Task.lane =
        (((unitTasks u tasks).zip (pack (unitIntervals u tasks)).assignments).map
          Prod.snd).map some := by
      rw [allocated_unit_tasks, ← List.map_uncurry_zip_eq_zipWith, List.map_map, List.map_map]
      rfl
    _ = (pack (unitIntervals u tasks)).assignments.map some := by
      rw [List.map_snd_zip (le_of_eq (unit_assignments_length u tasks))]

/-- Each unit is packed as if the others were not there. Read in the order of the trace, its tasks
have the lanes that packing gives to their intervals alone, and so do its statistics; all else about
the tasks is kept. Two traces with the same intervals in a unit agree on that unit. -/
theorem units_are_packed_independently (u : ExecUnit) (tasks : List Task) :
    (unitTasks u (allocateLanes tasks).1).map Task.lane =
        (pack (unitIntervals u tasks)).assignments.map some ∧
      (allocateLanes tasks).2.get u =
        some ⟨(unitTasks u tasks).length, (pack (unitIntervals u tasks)).laneCount,
          peakOverlap (unitIntervals u tasks)⟩ ∧
      (allocateLanes tasks).1.map Task.unlaned = tasks.map Task.unlaned ∧
      ∀ others : List Task, unitIntervals u others = unitIntervals u tasks →
        (unitTasks u (allocateLanes others).1).map Task.lane =
            (unitTasks u (allocateLanes tasks).1).map Task.lane ∧
          (allocateLanes others).2.get u = (allocateLanes tasks).2.get u := by
  refine ⟨allocated_unit_lanes u tasks, ?_, allocated_unlaned tasks, ?_⟩
  · rw [allocated_stats, unitStats, unitIntervals, List.length_map]
    rfl
  · intro others same
    constructor
    · rw [allocated_unit_lanes, allocated_unit_lanes, same]
    · rw [allocated_stats, allocated_stats, unitStats, unitStats, same]

/-- The second trace has other vector tasks, and has them elsewhere. -/
theorem interleaving_keeps_scalar_lanes :
    let task (id start stop : Nat) (u : ExecUnit) : Task :=
      ⟨id, ⟨"", u, start, stop, none⟩, "", .unclassified, none, [], none⟩
    let tasks := [task 0 0 4 .scalar, task 1 0 4 .vector, task 2 1 3 .scalar, task 3 4 6 .scalar]
    let others := [task 0 2 9 .vector, task 1 0 4 .scalar, task 2 1 3 .scalar, task 3 4 6 .scalar,
      task 4 1 2 .vector]
    unitIntervals .scalar others = unitIntervals .scalar tasks ∧
      (unitTasks .scalar (allocateLanes others).1).map Task.lane = [some 0, some 1, some 0] := by
  intro task tasks others
  obtain ⟨lanes, _, _, agree⟩ := units_are_packed_independently .scalar tasks
  have same : unitIntervals .scalar others = unitIntervals .scalar tasks := by decide
  exact ⟨same, (agree others same).1.trans (lanes.trans (by decide))⟩

end Retirement
