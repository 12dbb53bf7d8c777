import Retirement.Proofs.Lane.Growth

/-!
Phases of a unit. Where nothing of a second phase overlaps anything of a first, the first phase is in
nobody's way: the second is packed into the same lanes as if it came alone, although these lanes hold
the first one by then. Which phase is the earlier in time does not matter, and they may alternate.
-/

namespace Retirement

def PhasesApart (first second : List Interval) : Prop :=
  ∀ p ∈ first, ∀ q ∈ second, ¬ p.Overlaps q

instance (first second : List Interval) : Decidable (PhasesApart first second) :=
  inferInstanceAs (Decidable (∀ p ∈ first, ∀ q ∈ second, ¬ p.Overlaps q))

theorem free_lanes_past_phase {phase : List (Interval × Nat)} {interval : Interval}
    (apart : ∀ entry ∈ phase, ¬ entry.1.Overlaps interval) (placed : List (Interval × Nat)) :
    freeLanes (phase ++ placed) interval = freeLanes placed interval := by
  apply Set.ext
  intro number
  rw [mem_free_lanes, mem_free_lanes]
  constructor
  · intro free p member
    apply free
    exact List.mem_append_right phase member
  · intro free p member
    rcases List.mem_append.mp member with earlier | current
    · exact apart (p, number) earlier
    · exact free p current

/-- Lanes that hold a phase as well choose what they would choose without it. -/
theorem chosen_lane_past_phase {busy fresh : List Lane} {phase placed : List (Interval × Nat)}
    (busyHolds : Holds busy (phase ++ placed)) (freshHolds : Holds fresh placed)
    {interval : Interval} (apart : ∀ entry ∈ phase, ¬ entry.1.Overlaps interval) :
    (placeFirst busy interval).1 = (placeFirst fresh interval).1 := by
  have least := chosen_lane_is_least_free busyHolds interval
  rw [free_lanes_past_phase apart] at least
  apply least.unique
  exact chosen_lane_is_least_free freshHolds interval

theorem pack_into_past_phase {busy fresh : List Lane} {phase placed : List (Interval × Nat)}
    (busyHolds : Holds busy (phase ++ placed)) (freshHolds : Holds fresh placed)
    {intervals : List Interval}
    (apart : ∀ interval ∈ intervals, ∀ entry ∈ phase, ¬ entry.1.Overlaps interval) :
    (packInto busy intervals).1 = (packInto fresh intervals).1 := by
  induction intervals generalizing busy fresh placed with
  | nil => rfl
  | cons interval rest ih =>
      obtain ⟨here, later⟩ := List.forall_mem_cons.mp apart
      have same := chosen_lane_past_phase busyHolds freshHolds here
      have busyNext := place_first_holds busyHolds interval
      rw [same, List.append_assoc] at busyNext
      have freshNext := place_first_holds freshHolds interval
      rw [pack_into_cons, pack_into_cons, same, ih busyNext freshNext later]

theorem phases_assignments {first second : List Interval} (apart : PhasesApart first second) :
    (pack (first ++ second)).assignments =
      (pack first).assignments ++ (pack second).assignments := by
  have busyHolds := lanes_hold_placements first
  rw [← List.append_nil (placements first)] at busyHolds
  have outOfTheWay : ∀ interval ∈ second, ∀ entry ∈ placements first,
      ¬ entry.1.Overlaps interval := by
    intro interval member entry placed
    have present : entry.1 ∈ first := by
      rw [← placements_map_fst first]
      exact List.mem_map_of_mem placed
    exact apart entry.1 present interval member
  rw [pack_append_assignments, pack_into_past_phase busyHolds no_lanes_hold_nothing outOfTheWay]
  rfl

theorem phases_lane_count {first second : List Interval} (apart : PhasesApart first second) :
    (pack (first ++ second)).laneCount = max (pack first).laneCount (pack second).laneCount := by
  apply eq_of_forall_lt_iff
  intro number
  rw [lt_max_iff, lane_open_iff_used, lane_open_iff_used, lane_open_iff_used,
    phases_assignments apart, List.mem_append]

/-- At every cycle one of the phases rests. -/
theorem phase_rests {first second : List Interval} (apart : PhasesApart first second)
    (cycle : Nat) : aliveCount first cycle = 0 ∨ aliveCount second cycle = 0 := by
  by_contra busy
  rw [not_or] at busy
  obtain ⟨p, member, pAlive⟩ := List.countP_pos_iff.mp (Nat.pos_of_ne_zero busy.1)
  obtain ⟨q, present, qAlive⟩ := List.countP_pos_iff.mp (Nat.pos_of_ne_zero busy.2)
  have overlap := (of_decide_eq_true pAlive).overlaps (of_decide_eq_true qAlive)
  exact apart p member q present overlap

theorem phases_peak {first second : List Interval} (apart : PhasesApart first second) :
    peakOverlap (first ++ second) = max (peakOverlap first) (peakOverlap second) := by
  apply le_antisymm
  · obtain ⟨cycle, busiest⟩ := busiest_cycle_exists (first ++ second)
    have firstBound := alive_count_le_peak first cycle
    have secondBound := alive_count_le_peak second cycle
    rw [← busiest, alive_count_append]
    rcases phase_rests apart cycle with rests | rests
    · rw [rests, Nat.zero_add]
      exact le_max_of_le_right secondBound
    · rw [rests, Nat.add_zero]
      exact le_max_of_le_left firstBound
  · apply max_le
    · exact peak_le_append first second
    · exact peak_le_append_left first second

/-- Phases that do not overlap are packed one by one. Packed together, each interval has the lane
that it has when its own phase is packed alone, there are as many lanes as the larger phase opens, and
the busiest cycle is that of the busier phase. -/
theorem phases_are_packed_one_by_one (first second : List Interval)
    (apart : PhasesApart first second) :
    (pack (first ++ second)).assignments =
        (pack first).assignments ++ (pack second).assignments ∧
      (pack (first ++ second)).laneCount =
        max (pack first).laneCount (pack second).laneCount ∧
      peakOverlap (first ++ second) = max (peakOverlap first) (peakOverlap second) :=
  ⟨phases_assignments apart, phases_lane_count apart, phases_peak apart⟩

/-- The second phase lies in the gap of the first and has an inverted and an empty interval, so that
its lanes are scanned; the lane that it opens alone is there already. -/
theorem phase_inside_a_gap :
    let first : List Interval := [⟨0, 3⟩, ⟨1, 2⟩, ⟨9, 12⟩]
    let second : List Interval := [⟨3, 8⟩, ⟨5, 5⟩, ⟨8, 4⟩, ⟨4, 6⟩]
    PhasesApart first second ∧
      (pack (first ++ second)).assignments = [0, 1, 0, 0, 1, 0, 2] ∧
      (pack (first ++ second)).laneCount = 3 ∧
      peakOverlap (first ++ second) = max (peakOverlap first) (peakOverlap second) := by
  intro first second
  have apart : PhasesApart first second := by decide
  obtain ⟨assignments, lanes, peak⟩ := phases_are_packed_one_by_one first second apart
  exact ⟨apart, assignments.trans (by decide), lanes.trans (by decide), peak⟩

end Retirement
