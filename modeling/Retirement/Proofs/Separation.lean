import Retirement.Proofs.Run

/-!
The two analyses do not see each other. Edges depend on the instruction texts alone and lanes on the
units and cycles alone, although both are read from the same tasks and lanes are written into them
before the resolver runs: rows that agree on what one analysis reads have the same result of it,
whatever else they say.
-/

namespace Retirement

open Instruction (ClassSet OpClass Operands)

structure Flow where
  id : Nat
  opClass : OpClass
  destination : Option String
  sources : List String

def Task.flow (task : Task) : Flow := ⟨task.id, task.opClass, task.destination, task.sources⟩

theorem read_edges_of_same_flow (tracked : ClassSet) (writers : Writers) {task other : Task}
    (same : task.flow = other.flow) :
    readEdges tracked writers task = readEdges tracked writers other := by
  simp only [Task.flow, Flow.mk.injEq] at same
  obtain ⟨ids, classes, _, sources⟩ := same
  unfold readEdges
  rw [ids, classes, sources]

theorem record_write_of_same_flow (writers : Writers) {task other : Task}
    (same : task.flow = other.flow) : recordWrite writers task = recordWrite writers other := by
  simp only [Task.flow, Flow.mk.injEq] at same
  obtain ⟨ids, _, destinations, _⟩ := same
  unfold recordWrite
  rw [ids, destinations]

theorem resolve_from_of_same_flow (tracked : ClassSet) (writers : Writers)
    {tasks others : List Task} (same : tasks.map Task.flow = others.map Task.flow) :
    resolveFrom tracked writers tasks = resolveFrom tracked writers others := by
  induction tasks generalizing writers others with
  | nil =>
      have none : others = [] := List.map_eq_nil_iff.mp same.symm
      rw [none]
  | cons task rest ih =>
      obtain ⟨other, more, rfl, sameTask, sameRest⟩ := List.map_eq_cons_iff.mp same.symm
      rw [resolveFrom, resolveFrom, read_edges_of_same_flow tracked writers sameTask,
        record_write_of_same_flow writers sameTask, ih _ sameRest.symm]

/-- What instruction text alone settles about the task at a position. -/
def flowAt (mnemonic : String) (position : Nat) : Flow :=
  let operands := Operands.ofText mnemonic.toList
  ⟨position, operands.opClass, operands.destination, operands.sources⟩

theorem built_flow (checkOrder : Bool) (rows : List Row) :
    (buildTasks checkOrder rows).tasks.map Task.flow =
      (rows.map Row.mnemonic).zipIdx.map fun entry => flowAt entry.1 entry.2 := by
  rw [buildTasks, build_from_tasks, List.zipIdx_map, List.map_map, List.map_map]
  rfl

structure Seat where
  unit : ExecUnit
  interval : Interval
  lane : Option Nat

def Task.seat (task : Task) : Seat := ⟨task.unit, task.interval, task.lane⟩

theorem unit_intervals_of_same_seats (u : ExecUnit) {tasks others : List Task}
    (same : tasks.map Task.seat = others.map Task.seat) :
    unitIntervals u tasks = unitIntervals u others := by
  have seats : ∀ list : List Task, unitIntervals u list =
      ((list.map Task.seat).filter fun seat => seat.unit = u).map Seat.interval := by
    intro list
    rw [List.filter_map, List.map_map]
    rfl
  rw [seats, seats, same]

theorem give_lanes_of_same_seats (u : ExecUnit) (lanes : List Nat) {tasks others : List Task}
    (same : tasks.map Task.seat = others.map Task.seat) :
    (giveLanes u lanes tasks).map Task.seat = (giveLanes u lanes others).map Task.seat := by
  induction tasks generalizing lanes others with
  | nil =>
      have none : others = [] := List.map_eq_nil_iff.mp same.symm
      rw [none]
  | cons task rest ih =>
      obtain ⟨other, more, rfl, sameTask, sameRest⟩ := List.map_eq_cons_iff.mp same.symm
      have units : other.unit = task.unit := congrArg Seat.unit sameTask
      have intervals : other.interval = task.interval := congrArg Seat.interval sameTask
      cases lanes with
      | nil => rw [give_no_lanes, give_no_lanes, same]
      | cons lane lanes =>
          rw [giveLanes, giveLanes, units]
          split_ifs
          · have laned : (other.inLane lane).seat = (task.inLane lane).seat := by
              change Seat.mk other.unit other.interval _ = Seat.mk task.unit task.interval _
              rw [units, intervals]
              rfl
            rw [List.map_cons, List.map_cons, ih lanes sameRest.symm]
            exact congrArg (· :: _) laned.symm
          · rw [List.map_cons, List.map_cons, ih _ sameRest.symm, sameTask]

theorem lane_unit_of_same_seats (u : ExecUnit) {tasks others : List Task}
    (same : tasks.map Task.seat = others.map Task.seat) :
    (laneUnit u tasks).map Task.seat = (laneUnit u others).map Task.seat := by
  unfold laneUnit
  rw [unit_intervals_of_same_seats u same]
  exact give_lanes_of_same_seats u _ same

theorem allocated_seats_of_same_seats {tasks others : List Task}
    (same : tasks.map Task.seat = others.map Task.seat) :
    (allocateLanes tasks).1.map Task.seat = (allocateLanes others).1.map Task.seat := by
  change (ExecUnit.all.foldl (fun tasks u => laneUnit u tasks) tasks).map Task.seat =
    (ExecUnit.all.foldl (fun tasks u => laneUnit u tasks) others).map Task.seat
  induction ExecUnit.all generalizing tasks others with
  | nil => exact same
  | cons u units ih => exact ih (lane_unit_of_same_seats u same)

theorem allocated_lanes_of_same_seats {tasks others : List Task}
    (same : tasks.map Task.seat = others.map Task.seat) :
    (allocateLanes tasks).1.map Task.lane = (allocateLanes others).1.map Task.lane := by
  have seats := congrArg (List.map Seat.lane) (allocated_seats_of_same_seats same)
  rw [List.map_map, List.map_map] at seats
  exact seats

theorem summary_of_same_seats {tasks others : List Task}
    (same : tasks.map Task.seat = others.map Task.seat) :
    (allocateLanes tasks).2 = (allocateLanes others).2 := by
  have stats : ∀ u, unitStats u tasks = unitStats u others := by
    intro u
    unfold unitStats
    rw [unit_intervals_of_same_seats u same]
  simp only [allocateLanes, stats]

def Row.timing (row : Row) : ExecUnit × Interval := (row.unit, row.interval)

theorem built_seats (checkOrder : Bool) (rows : List Row) :
    (buildTasks checkOrder rows).tasks.map Task.seat =
      (rows.map Row.timing).map fun timing => ⟨timing.1, timing.2, none⟩ := by
  have seats : (buildTasks checkOrder rows).tasks.map Task.seat =
      (rows.zipIdx.map Prod.fst).map fun row => ⟨row.unit, row.interval, none⟩ := by
    rw [buildTasks, build_from_tasks, List.map_map, List.map_map]
    rfl
  rw [seats, List.zipIdx_map_fst, List.map_map]
  rfl

namespace Timeline

/-- Edges come from the instruction texts and lanes from units and cycles. Two runs with the same
tracked classes have the same edges if their rows agree on the texts, and the same lanes and
statistics if their rows agree on units and cycles. -/
theorem edges_and_lanes_do_not_interfere {rows others : List Row} {options otherOptions : Options}
    (tracked : options.tracked = otherOptions.tracked) {one other : Timeline}
    (finished : runAll rows options = .ok one)
    (otherFinished : runAll others otherOptions = .ok other) :
    (rows.map Row.mnemonic = others.map Row.mnemonic →
        ∃ edges, one.edges = some edges ∧ other.edges = some edges) ∧
      (rows.map Row.timing = others.map Row.timing →
        one.tasks.map Task.lane = other.tasks.map Task.lane ∧
          (∀ task ∈ one.tasks, task.lane.isSome = true) ∧
          ∃ summary, one.lanes = some summary ∧ other.lanes = some summary) := by
  obtain ⟨_, rfl⟩ := run_all_eq_ok_iff.mp finished
  obtain ⟨_, rfl⟩ := run_all_eq_ok_iff.mp otherFinished
  constructor
  · intro sameTexts
    have sameFlow : (buildTasks options.checkOrder rows).tasks.map Task.flow =
        (buildTasks otherOptions.checkOrder others).tasks.map Task.flow := by
      rw [built_flow, built_flow, sameTexts]
    refine ⟨_, complete_edges rows options, ?_⟩
    rw [complete_edges, tracked]
    exact congrArg some (resolve_from_of_same_flow _ [] sameFlow).symm
  · intro sameTiming
    have sameSeats : (buildTasks options.checkOrder rows).tasks.map Task.seat =
        (buildTasks otherOptions.checkOrder others).tasks.map Task.seat := by
      rw [built_seats, built_seats, sameTiming]
    refine ⟨allocated_lanes_of_same_seats sameSeats, allocated_tasks_have_lanes _, _,
      complete_lanes rows options, ?_⟩
    rw [complete_lanes]
    exact congrArg some (summary_of_same_seats sameSeats).symm

/-- The second trace has the texts of the first at other times and places, the third its times and
places with other texts. -/
theorem moved_and_renamed_rows_agree :
    let rows : List Row := [⟨"flw ft0,0(a0)", .fp, 0, 3, none⟩,
      ⟨"vfmacc.vf v0,ft0,v8", .vector, 2, 7, none⟩]
    let moved : List Row := [⟨"flw ft0,0(a0)", .vector, 5, 6, some 8⟩,
      ⟨"vfmacc.vf v0,ft0,v8", .vector, 1, 9, some 4⟩]
    let renamed : List Row := [⟨"nop", .fp, 0, 3, some 2⟩, ⟨"add a0,", .vector, 2, 7, none⟩]
    ∃ one other third, runAll rows ⟨.all, false⟩ = .ok one ∧
      runAll moved ⟨.all, true⟩ = .ok other ∧ runAll renamed ⟨.all, true⟩ = .ok third ∧
      (∃ edges, one.edges = some edges ∧ other.edges = some edges) ∧
      one.tasks.map Task.lane = third.tasks.map Task.lane ∧
      ∃ summary, one.lanes = some summary ∧ third.lanes = some summary := by
  intro rows moved renamed
  have finished : runAll rows ⟨.all, false⟩ = .ok (complete rows ⟨.all, false⟩) :=
    run_all_eq_ok_iff.mpr ⟨by decide, rfl⟩
  have movedFinished : runAll moved ⟨.all, true⟩ = .ok (complete moved ⟨.all, true⟩) :=
    run_all_eq_ok_iff.mpr ⟨by decide, rfl⟩
  have renamedFinished : runAll renamed ⟨.all, true⟩ = .ok (complete renamed ⟨.all, true⟩) :=
    run_all_eq_ok_iff.mpr ⟨by decide, rfl⟩
  have sameClasses :
      (Options.mk ClassSet.all false).tracked = (Options.mk ClassSet.all true).tracked := rfl
  have sameEdges :=
    (edges_and_lanes_do_not_interfere sameClasses finished movedFinished).1 (by decide)
  obtain ⟨sameLanes, _, sameSummary⟩ :=
    (edges_and_lanes_do_not_interfere sameClasses finished renamedFinished).2 (by decide)
  exact ⟨_, _, _, finished, movedFinished, renamedFinished, sameEdges, sameLanes, sameSummary⟩

end Timeline

end Retirement
