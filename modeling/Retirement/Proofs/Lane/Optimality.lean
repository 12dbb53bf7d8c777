import Mathlib.Data.List.Perm.Subperm
import Retirement.Proofs.Lane.BusiestCycle
import Retirement.Proofs.Lane.FirstFit

/-!
How many lanes first fit needs. Intervals under way at one cycle overlap, so they are in different
lanes, and no packing gets by with fewer lanes than the busiest cycle has intervals. When the
intervals come in order of their starts no lane is wasted: whatever kept an interval out of a lower
lane is still under way when the interval starts.
-/

namespace Retirement

namespace Interval

theorem Alive.overlaps {first second : Interval} {cycle : Nat} (one : first.Alive cycle)
    (other : second.Alive cycle) : first.Overlaps second := by
  simp only [Alive, Overlaps] at *
  omega

theorem Overlaps.alive_at_start {first second : Interval} (overlap : first.Overlaps second)
    (ordered : first.start ≤ second.start) : first.Alive second.start :=
  ⟨ordered, overlap.2⟩

end Interval

def alivePlacements (intervals : List Interval) (cycle : Nat) : List (Interval × Nat) :=
  (placements intervals).filter fun entry => decide (entry.1.Alive cycle)

theorem alive_placements_length (intervals : List Interval) (cycle : Nat) :
    (alivePlacements intervals cycle).length = aliveCount intervals cycle := by
  rw [alivePlacements, ← List.countP_eq_length_filter, aliveCount]
  conv => rhs; rw [← placements_map_fst intervals, List.countP_map]
  rfl

theorem alive_lanes_nodup (intervals : List Interval) (cycle : Nat) :
    ((alivePlacements intervals cycle).map Prod.snd).Nodup := by
  rw [alivePlacements, List.Nodup, List.pairwise_map, List.pairwise_filter]
  apply (placements_disjoint intervals).imp
  intro first second disjoint firstAlive secondAlive sameLane
  rw [decide_eq_true_eq] at firstAlive secondAlive
  exact disjoint sameLane (firstAlive.overlaps secondAlive)

theorem alive_lanes_in_range (intervals : List Interval) (cycle : Nat) :
    ∀ lane ∈ (alivePlacements intervals cycle).map Prod.snd,
      lane < (pack intervals).laneCount := by
  intro lane member
  rw [lane_open_iff_used, ← placements_map_snd]
  exact (List.filter_sublist.map Prod.snd).subset member

theorem alive_count_le_lane_count (intervals : List Interval) (cycle : Nat) :
    aliveCount intervals cycle ≤ (pack intervals).laneCount := by
  have covered : (alivePlacements intervals cycle).map Prod.snd ⊆
      List.range (pack intervals).laneCount := by
    intro lane member
    exact List.mem_range.mpr (alive_lanes_in_range intervals cycle lane member)
  have short := (alive_lanes_nodup intervals cycle).subperm covered |>.length_le
  rwa [List.length_map, alive_placements_length, List.length_range] at short

theorem peak_le_lane_count (intervals : List Interval) :
    peakOverlap intervals ≤ (pack intervals).laneCount := by
  obtain ⟨cycle, attained⟩ := peak_attained intervals
  exact attained.trans (alive_count_le_lane_count intervals cycle)

theorem busiest_cycle_exists (intervals : List Interval) :
    ∃ cycle, aliveCount intervals cycle = peakOverlap intervals := by
  obtain ⟨cycle, attained⟩ := peak_attained intervals
  exact ⟨cycle, le_antisymm (alive_count_le_peak intervals cycle) attained⟩

/-- Every lane is opened for an interval of its own. -/
theorem lane_count_le_length (intervals : List Interval) :
    (pack intervals).laneCount ≤ intervals.length := by
  have covered : List.range (pack intervals).laneCount ⊆ (pack intervals).assignments := by
    intro number member
    exact (lane_open_iff_used intervals number).mp (List.mem_range.mp member)
  have short := List.nodup_range.subperm covered |>.length_le
  rwa [List.length_range, pack_assigns_all] at short

theorem peak_pos_of_mem {intervals : List Interval} {interval : Interval}
    (member : interval ∈ intervals) (nonempty : ¬ interval.IsEmpty) :
    0 < peakOverlap intervals := by
  have alive : interval.Alive interval.start := ⟨le_refl _, not_le.mp nonempty⟩
  have counted : 0 < aliveCount intervals interval.start :=
    List.countP_pos_iff.mpr ⟨interval, member, decide_eq_true alive⟩
  exact counted.trans_le (alive_count_le_peak intervals interval.start)

/-- Packing never gets by with fewer lanes than the busiest cycle has intervals under way, in
whatever order they come: there they all need lanes of their own. -/
theorem busiest_cycle_needs_its_lanes (intervals : List Interval) :
    peakOverlap intervals ≤ (pack intervals).laneCount ∧
      ∃ cycle, aliveCount intervals cycle = peakOverlap intervals ∧
        (∀ other, aliveCount intervals other ≤ aliveCount intervals cycle) ∧
        ((alivePlacements intervals cycle).map Prod.snd).Nodup ∧
        ∀ lane ∈ (alivePlacements intervals cycle).map Prod.snd,
          lane < (pack intervals).laneCount := by
  apply And.intro (peak_le_lane_count intervals)
  obtain ⟨cycle, busiest⟩ := busiest_cycle_exists intervals
  refine ⟨cycle, busiest, ?_, alive_lanes_nodup intervals cycle,
    alive_lanes_in_range intervals cycle⟩
  intro other
  rw [busiest]
  exact alive_count_le_peak intervals other

/-- In order of starts, every lane up to that of an interval has an interval under way when this one
starts. -/
theorem lower_lanes_alive {intervals : List Interval}
    (ordered : intervals.Pairwise fun first second => first.start ≤ second.start)
    {interval : Interval} {number : Nat} (placed : (interval, number) ∈ placements intervals)
    (nonempty : ¬ interval.IsEmpty) :
    ∀ lower ≤ number,
      lower ∈ (alivePlacements intervals interval.start).map Prod.snd := by
  have startsOrdered : (placements intervals).Pairwise fun first second =>
      first.1.start ≤ second.1.start := by
    rw [← placements_map_fst intervals, List.pairwise_map] at ordered
    exact ordered
  obtain ⟨position, bound, same⟩ := List.mem_iff_getElem.mp placed
  have least := placement_is_least_free
    ((List.getElem?_eq_getElem bound).trans (congrArg some same))
  intro lower atMost
  rw [List.mem_map]
  rcases Nat.lt_or_eq_of_le atMost with below | rfl
  · have taken : lower ∉ freeLanes ((placements intervals).take position) interval :=
      fun free => absurd (least.2 free) (not_le.mpr below)
    simp only [mem_free_lanes, not_forall, not_not] at taken
    obtain ⟨p, before, overlap⟩ := taken
    obtain ⟨earlier, earlierBound, found⟩ := List.mem_take_iff_getElem.mp before
    have starts := List.pairwise_iff_getElem.mp startsOrdered earlier position
      (by omega) bound (by omega)
    rw [found, same] at starts
    refine ⟨(p, lower), List.mem_filter.mpr ⟨List.mem_of_mem_take before, ?_⟩, rfl⟩
    exact decide_eq_true (overlap.alive_at_start starts)
  · refine ⟨(interval, lower), List.mem_filter.mpr ⟨placed, ?_⟩, rfl⟩
    exact decide_eq_true ⟨le_refl _, not_le.mp nonempty⟩

/-- First fit is optimal for non-empty intervals in order of their starts: it opens as many lanes as
the busiest cycle has intervals. -/
theorem in_order_lane_count_eq_peak (intervals : List Interval)
    (nonempty : ∀ interval ∈ intervals, ¬ interval.IsEmpty)
    (ordered : intervals.Pairwise fun first second => first.start ≤ second.start) :
    (pack intervals).laneCount = peakOverlap intervals := by
  apply le_antisymm _ (peak_le_lane_count intervals)
  cases count : (pack intervals).laneCount with
  | zero => exact Nat.zero_le _
  | succ number =>
      have used := (lane_open_iff_used intervals number).mp (by omega)
      rw [← placements_map_snd, List.mem_map] at used
      obtain ⟨⟨interval, number⟩, placed, rfl⟩ := used
      have present : interval ∈ intervals := by
        rw [← placements_map_fst intervals]
        exact List.mem_map_of_mem placed
      have lower := lower_lanes_alive ordered placed (nonempty interval present)
      have covered : List.range (number + 1) ⊆
          (alivePlacements intervals interval.start).map Prod.snd := by
        intro lane member
        exact lower lane (by simpa [Nat.lt_succ_iff] using member)
      have long := List.nodup_range.subperm covered |>.length_le
      rw [List.length_range, List.length_map, alive_placements_length] at long
      exact long.trans (alive_count_le_peak intervals interval.start)

/-- Equal starts need lanes of their own, and an interval that starts where others end needs none. -/
theorem lane_count_eq_peak_with_ties :
    (pack [⟨0, 3⟩, ⟨0, 2⟩, ⟨2, 4⟩, ⟨3, 5⟩]).laneCount =
        peakOverlap [⟨0, 3⟩, ⟨0, 2⟩, ⟨2, 4⟩, ⟨3, 5⟩] ∧
      (pack [⟨0, 3⟩, ⟨0, 2⟩, ⟨2, 4⟩, ⟨3, 5⟩]).laneCount = 2 :=
  ⟨in_order_lane_count_eq_peak _ (by decide) (by decide), by decide⟩

end Retirement
