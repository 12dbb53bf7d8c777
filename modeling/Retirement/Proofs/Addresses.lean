import Retirement.Proofs.Separation

/-!
Addresses put rows in order and serve for nothing else. Rows that have lost their addresses are built,
allocated and resolved as before; only their tasks have no address either.
-/

namespace Retirement

def Row.unaddressed (row : Row) : Row := { row with pc := none }

def Task.unaddressed (task : Task) : Task := { task with row := task.row.unaddressed }

theorem built_unaddressed (checkOrder otherOrder : Bool) (rows : List Row) :
    (buildTasks checkOrder (rows.map Row.unaddressed)).tasks =
      (buildTasks otherOrder rows).tasks.map Task.unaddressed := by
  rw [buildTasks, buildTasks, build_from_tasks, build_from_tasks, List.zipIdx_map, List.map_map,
    List.map_map]
  rfl

theorem unaddressed_seats (tasks : List Task) :
    (tasks.map Task.unaddressed).map Task.seat = tasks.map Task.seat := by
  rw [List.map_map]
  rfl

theorem unaddressed_flow (tasks : List Task) :
    (tasks.map Task.unaddressed).map Task.flow = tasks.map Task.flow := by
  rw [List.map_map]
  rfl

theorem unaddressed_spares_lanes : Task.SparesLanes Task.unaddressed where
  unit := fun _ => rfl
  inLane := fun _ _ => rfl

theorem allocated_unaddressed (tasks : List Task) :
    (allocateLanes (tasks.map Task.unaddressed)).1 =
      (allocateLanes tasks).1.map Task.unaddressed := by
  apply allocated_map unaddressed_spares_lanes
  intro u list _
  rw [unit_intervals_of_same_seats u (unaddressed_seats list)]

namespace Timeline

/-- A run that succeeds does so without the addresses as well, whether or not they are compared; its
tasks differ in their addresses only, and it has the same lanes, statistics and edges. -/
theorem run_without_addresses {rows : List Row} {options : Options} {timeline : Timeline}
    (finished : runAll rows options = .ok timeline) (checkOrder : Bool) :
    ∃ again, runAll (rows.map Row.unaddressed) ⟨options.tracked, checkOrder⟩ = .ok again ∧
      again.tasks = timeline.tasks.map Task.unaddressed ∧ again.lanes = timeline.lanes ∧
      again.edges = timeline.edges := by
  obtain ⟨proper, rfl⟩ := run_all_eq_ok_iff.mp finished
  have properUnaddressed :
      ¬ ∃ row ∈ rows.map Row.unaddressed, row.endCycle ≤ row.startCycle := by
    intro empty
    obtain ⟨row, member, ends⟩ := empty
    obtain ⟨original, isRow, rfl⟩ := List.mem_map.mp member
    exact proper ⟨original, isRow, ends⟩
  have built := built_unaddressed checkOrder options.checkOrder rows
  refine ⟨_, run_all_eq_ok_iff.mpr ⟨properUnaddressed, rfl⟩, ?_, ?_, ?_⟩
  · rw [complete_tasks, complete_tasks, built, allocated_unaddressed]
  · rw [complete_lanes, complete_lanes, built, summary_of_same_seats (unaddressed_seats _)]
  · rw [complete_edges, complete_edges, built]
    exact congrArg some (resolve_from_of_same_flow _ [] (unaddressed_flow _))

end Timeline

end Retirement
