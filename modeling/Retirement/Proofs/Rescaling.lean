import Retirement.Proofs.Lane.Rescaling
import Retirement.Proofs.Separation

/-!
Traces at other cycles. A trace whose cycles are mapped in their order has the tasks of the old one at
the new cycles, with the same lanes, statistics and edges. Shifting and scaling are such maps, as words
of 64 bits too, as long as no cycle of the trace overflows.
-/

namespace Retirement

def Row.rescale (f : Nat → Nat) (row : Row) : Row :=
  { row with startCycle := f row.startCycle, endCycle := f row.endCycle }

def Task.rescale (f : Nat → Nat) (task : Task) : Task := { task with row := task.row.rescale f }

theorem built_rescaled (f : Nat → Nat) (checkOrder : Bool) (rows : List Row) :
    (buildTasks checkOrder (rows.map (Row.rescale f))).tasks =
      (buildTasks checkOrder rows).tasks.map (Task.rescale f) := by
  rw [buildTasks, buildTasks, build_from_tasks, build_from_tasks, List.zipIdx_map, List.map_map,
    List.map_map]
  rfl

theorem built_intervals (checkOrder : Bool) (rows : List Row) :
    (buildTasks checkOrder rows).tasks.map Task.interval = rows.map Row.interval := by
  have intervals := congrArg (List.map Row.interval) (built_rows checkOrder rows)
  rw [List.map_map] at intervals
  exact intervals

theorem rescaled_flow (f : Nat → Nat) (tasks : List Task) :
    (tasks.map (Task.rescale f)).map Task.flow = tasks.map Task.flow := by
  rw [List.map_map]
  rfl

theorem rescale_spares_lanes (f : Nat → Nat) : Task.SparesLanes (Task.rescale f) where
  unit := fun _ => rfl
  inLane := fun _ _ => rfl

theorem unit_intervals_rescale (f : Nat → Nat) (u : ExecUnit) (tasks : List Task) :
    unitIntervals u (tasks.map (Task.rescale f)) =
      (unitIntervals u tasks).map (Interval.rescale f) := by
  rw [unitIntervals, unitIntervals, List.filter_map, List.map_map, List.map_map]
  rfl

section Allocation

variable {f : Nat → Nat} {tasks : List Task}

theorem unit_intervals_within (u : ExecUnit) {list : List Task}
    (same : list.map Task.interval = tasks.map Task.interval) :
    ∀ interval ∈ unitIntervals u list, interval.Within (cyclesOf (tasks.map Task.interval)) := by
  intro interval member
  obtain ⟨task, present, rfl⟩ := List.mem_map.mp member
  apply Interval.within_cycles_of
  rw [← same]
  exact List.mem_map_of_mem (List.mem_of_mem_filter present)

theorem allocated_rescaled (increasing : StrictMonoOn f (cyclesOf (tasks.map Task.interval))) :
    (allocateLanes (tasks.map (Task.rescale f))).1 =
      (allocateLanes tasks).1.map (Task.rescale f) := by
  apply allocated_map (rescale_spares_lanes f)
  intro u list same
  rw [unit_intervals_rescale]
  exact pack_rescale increasing (unit_intervals_within u same)

theorem summary_rescaled (increasing : StrictMonoOn f (cyclesOf (tasks.map Task.interval))) :
    (allocateLanes (tasks.map (Task.rescale f))).2 = (allocateLanes tasks).2 := by
  have stats : ∀ u, unitStats u (tasks.map (Task.rescale f)) = unitStats u tasks := by
    intro u
    have within : ∀ interval ∈ unitIntervals u tasks,
        interval.Within (cyclesOf (tasks.map Task.interval)) := unit_intervals_within u rfl
    simp only [unitStats, unit_intervals_rescale, List.length_map, pack_rescale increasing within,
      peak_rescale increasing within]
  simp only [allocateLanes, stats]

end Allocation

theorem rescaled_rows_empty_iff {f : Nat → Nat} {rows : List Row}
    (increasing : StrictMonoOn f (cyclesOf (rows.map Row.interval))) :
    (∃ row ∈ rows.map (Row.rescale f), row.endCycle ≤ row.startCycle) ↔
      ∃ row ∈ rows, row.endCycle ≤ row.startCycle := by
  have empty : ∀ row ∈ rows, (row.interval.rescale f).IsEmpty ↔ row.interval.IsEmpty := by
    intro row member
    apply Interval.rescale_is_empty_iff increasing
    exact Interval.within_cycles_of (List.mem_map_of_mem member)
  constructor
  · rintro ⟨rescaled, member, ends⟩
    obtain ⟨row, isRow, rfl⟩ := List.mem_map.mp member
    exact ⟨row, isRow, (empty row isRow).mp ends⟩
  · rintro ⟨row, member, ends⟩
    exact ⟨row.rescale f, List.mem_map_of_mem member, (empty row member).mpr ends⟩

namespace Timeline

/-- A run of the rescaled rows finishes as the old one did, with the old tasks at the new cycles. -/
theorem run_rescaled {f : Nat → Nat} {rows : List Row} {options : Options} {timeline : Timeline}
    (increasing : StrictMonoOn f (cyclesOf (rows.map Row.interval)))
    (finished : runAll rows options = .ok timeline) :
    ∃ again, runAll (rows.map (Row.rescale f)) options = .ok again ∧
      again.tasks = timeline.tasks.map (Task.rescale f) ∧ again.lanes = timeline.lanes ∧
      again.edges = timeline.edges := by
  obtain ⟨proper, rfl⟩ := run_all_eq_ok_iff.mp finished
  have properRescaled := mt (rescaled_rows_empty_iff increasing).mp proper
  have built := built_rescaled f options.checkOrder rows
  rw [← built_intervals options.checkOrder rows] at increasing
  refine ⟨_, run_all_eq_ok_iff.mpr ⟨properRescaled, rfl⟩, ?_, ?_, ?_⟩
  · rw [complete_tasks, complete_tasks, built, allocated_rescaled increasing]
  · rw [complete_lanes, complete_lanes, built, summary_rescaled increasing]
  · rw [complete_edges, complete_edges, built]
    exact congrArg some (resolve_from_of_same_flow _ [] (rescaled_flow f _))

end Timeline

/-- The cycle scaled and shifted in words of 64 bits, which wrap around. -/
def affineCycle (factor shift : UInt64) (cycle : Nat) : Nat :=
  (factor * UInt64.ofNat cycle + shift).toNat

theorem word_positive {word : UInt64} (nonzero : word ≠ 0) : 0 < word.toNat :=
  UInt64.lt_iff_toNat_lt.mp (UInt64.pos_iff_ne_zero.mpr nonzero)

section Words

variable {factor shift : UInt64}

theorem affine_cycle_value (nonzero : factor ≠ 0) {cycle : Nat}
    (fits : factor.toNat * cycle + shift.toNat < UInt64.size) :
    affineCycle factor shift cycle = factor.toNat * cycle + shift.toNat := by
  have size : UInt64.size = 2 ^ 64 := rfl
  have grows : cycle ≤ factor.toNat * cycle := Nat.le_mul_of_pos_left cycle (word_positive nonzero)
  have cycleFits : cycle < UInt64.size := by omega
  have product : factor.toNat * cycle % 2 ^ 64 = factor.toNat * cycle := Nat.mod_eq_of_lt (by omega)
  rw [affineCycle, UInt64.toNat_add, UInt64.toNat_mul, UInt64.toNat_ofNat_of_lt' cycleFits, product]
  exact Nat.mod_eq_of_lt (by omega)

theorem affine_increases (nonzero : factor ≠ 0) :
    StrictMonoOn (affineCycle factor shift)
      {cycle | factor.toNat * cycle + shift.toNat < UInt64.size} := by
  intro earlier earlierFits later laterFits before
  have scaled := Nat.mul_lt_mul_of_pos_left before (word_positive nonzero)
  rw [affine_cycle_value nonzero earlierFits, affine_cycle_value nonzero laterFits]
  omega

end Words

/-- Only the order of the cycles matters. A map that increases strictly on the cycles that occur leaves
the lane of every interval, the number of lanes and the peak as they were, also where intervals are
empty or inverted. In particular a trace that is scaled and shifted in words of 64 bits, so far that no
cycle overflows, has the lanes and statistics that it had. -/
theorem only_order_of_cycles_matters :
    (∀ (f : Nat → Nat) (intervals : List Interval), StrictMonoOn f (cyclesOf intervals) →
        (pack (intervals.map (Interval.rescale f))).assignments = (pack intervals).assignments ∧
          (pack (intervals.map (Interval.rescale f))).laneCount = (pack intervals).laneCount ∧
          peakOverlap (intervals.map (Interval.rescale f)) = peakOverlap intervals) ∧
      ∀ (factor shift : UInt64) (rows : List Row) (options : Options) (timeline : Timeline),
        factor ≠ 0 →
        (∀ cycle ∈ cyclesOf (rows.map Row.interval),
          factor.toNat * cycle + shift.toNat < UInt64.size) →
        Timeline.runAll rows options = .ok timeline →
          ∃ again, Timeline.runAll (rows.map (Row.rescale (affineCycle factor shift))) options =
              .ok again ∧
            again.tasks.map Task.lane = timeline.tasks.map Task.lane ∧
            again.lanes = timeline.lanes := by
  constructor
  · intro f intervals increasing
    have within : ∀ interval ∈ intervals, interval.Within (cyclesOf intervals) :=
      fun interval member => Interval.within_cycles_of member
    rw [pack_rescale increasing within, peak_rescale increasing within]
    exact ⟨rfl, rfl, rfl⟩
  · intro factor shift rows options timeline nonzero fits finished
    have increasing : StrictMonoOn (affineCycle factor shift) (cyclesOf (rows.map Row.interval)) :=
      fun earlier isEarlier later isLater =>
        affine_increases nonzero (fits earlier isEarlier) (fits later isLater)
    obtain ⟨again, finishedAgain, tasks, lanes, -⟩ := Timeline.run_rescaled increasing finished
    refine ⟨again, finishedAgain, ?_, lanes⟩
    rw [tasks, List.map_map]
    rfl

/-- Halving keeps the order of these cycles, though not of all, and the inverted and the empty interval
stay in their lanes. The last cycle of the stretched trace is the largest word there is. -/
theorem halved_and_stretched_cycles :
    let intervals : List Interval := [⟨0, 5⟩, ⟨7, 2⟩, ⟨3, 3⟩, ⟨2, 9⟩]
    let halved : List Interval := [⟨0, 3⟩, ⟨4, 1⟩, ⟨2, 2⟩, ⟨1, 5⟩]
    let rows : List Row := [⟨"flw ft0,0(a0)", .fp, 0, 3, none⟩, ⟨"flw ft1,4(a0)", .fp, 1, 2, none⟩]
    let factor : UInt64 := 6148914691236517205
    (pack halved).assignments = (pack intervals).assignments ∧
      peakOverlap halved = peakOverlap intervals ∧
      affineCycle factor 0 3 = 18446744073709551615 ∧
      ∃ one again, Timeline.runAll rows ⟨.all, true⟩ = .ok one ∧
        Timeline.runAll (rows.map (Row.rescale (affineCycle factor 0))) ⟨.all, true⟩ = .ok again ∧
        again.tasks.map Task.lane = one.tasks.map Task.lane ∧ again.lanes = one.lanes := by
  intro intervals halved rows factor
  obtain ⟨packed, stretched⟩ := only_order_of_cycles_matters
  have halving : StrictMonoOn (fun cycle => (cycle + 1) / 2) (cyclesOf intervals) := by
    intro earlier isEarlier later isLater before
    simp only [cyclesOf, intervals, List.mem_cons, List.not_mem_nil, or_false, Set.mem_ofPred_eq,
      exists_eq_or_imp, exists_eq_left] at isEarlier isLater
    change (earlier + 1) / 2 < (later + 1) / 2
    omega
  obtain ⟨assignments, -, peak⟩ := packed _ intervals halving
  have fits : ∀ cycle ∈ cyclesOf (rows.map Row.interval),
      factor.toNat * cycle + (0 : UInt64).toNat < UInt64.size := by
    intro cycle isCycle
    simp only [cyclesOf, rows, Row.interval, List.map_cons, List.map_nil, List.mem_cons,
      List.not_mem_nil, or_false, Set.mem_ofPred_eq, exists_eq_or_imp, exists_eq_left] at isCycle
    rcases isCycle with (rfl | rfl) | (rfl | rfl) <;> decide
  have finished : Timeline.runAll rows ⟨.all, true⟩ = .ok (Timeline.complete rows ⟨.all, true⟩) :=
    Timeline.run_all_eq_ok_iff.mpr ⟨by decide, rfl⟩
  obtain ⟨again, finishedAgain, lanes, summary⟩ :=
    stretched factor 0 rows ⟨.all, true⟩ _ (by decide) fits finished
  exact ⟨assignments, peak, by decide, _, again, finished, finishedAgain, lanes, summary⟩

end Retirement
