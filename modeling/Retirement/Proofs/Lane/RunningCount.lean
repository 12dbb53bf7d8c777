import Mathlib.Data.Set.Operations
import Mathlib.Order.Bounds.Basic
import Retirement.Proofs.Lane.Optimality

/-!
The running count of the sweep. After every boundary it lies between zero and the number of
intervals: a boundary at which an interval ends stands behind the one at which the interval starts,
so that what is taken away was added before. Words of 32 bits are therefore wide enough for the whole
sweep, and its result is the largest number of intervals under way at one cycle.
-/

namespace Retirement

def runningCounts : Int → List Boundary → List Int
  | _, [] => []
  | live, boundary :: rest => (live + boundary.step) :: runningCounts (live + boundary.step) rest

theorem sweep_eq_foldl_max (live peak : Int) (events : List Boundary) :
    sweep live peak events = (runningCounts live events).foldl max peak := by
  induction events generalizing live peak with
  | nil => rfl
  | cons event rest ih => exact ih _ _

theorem running_count_of_beginning {live count : Int} {events : List Boundary}
    (passed : count ∈ runningCounts live events) :
    ∃ start, start <+: events ∧ count = live + netSteps start := by
  induction events generalizing live with
  | nil => contradiction
  | cons event rest ih =>
      rcases List.mem_cons.mp passed with here | later
      · refine ⟨[event], (List.prefix_cons_inj event).mpr List.nil_prefix, ?_⟩
        simpa [netSteps] using here
      · obtain ⟨start, isPrefix, same⟩ := ih later
        refine ⟨event :: start, (List.prefix_cons_inj event).mpr isPrefix, ?_⟩
        simpa [netSteps, add_assoc] using same

theorem net_steps_nonpos {events : List Boundary} (steps : ∀ event ∈ events, event.step ≤ 0) :
    netSteps events ≤ 0 := by
  have each : ∀ step ∈ events.map Boundary.step, step ≤ 0 := List.forall_mem_map.mpr steps
  have bound := List.sum_le_card_nsmul (events.map Boundary.step) 0 each
  rw [nsmul_zero] at bound
  exact bound

/-- A selection of boundaries that has no end of an interval without its start never counts below
zero. -/
theorem net_steps_of_closed {intervals : List Interval} {chosen : Boundary → Bool}
    (closed : ∀ interval : Interval, ¬ interval.IsEmpty →
      chosen ⟨interval.stop, -1⟩ = true → chosen ⟨interval.start, 1⟩ = true) :
    0 ≤ netSteps ((boundaries intervals).filter chosen) := by
  induction intervals with
  | nil => exact le_refl _
  | cons interval rest ih =>
      rw [boundaries_cons]
      by_cases isEmpty : interval.IsEmpty
      · rw [if_pos isEmpty]
        exact ih
      · rw [if_neg isEmpty, List.filter_cons, List.filter_cons]
        by_cases stops : chosen ⟨interval.stop, -1⟩ = true
        · rw [if_pos (closed interval isEmpty stops), if_pos stops]
          simpa [netSteps] using ih
        · rw [if_neg stops]
          split_ifs
          · have more : (0 : Int) ≤ 1 + netSteps ((boundaries rest).filter chosen) := by omega
            simpa [netSteps] using more
          · exact ih

theorem start_before_stop {interval : Interval} {event : Boundary}
    (nonempty : ¬ interval.IsEmpty) (stops : Boundary.le ⟨interval.stop, -1⟩ event = true) :
    Boundary.le ⟨interval.start, 1⟩ event = true := by
  rw [boundary_le_iff] at *
  simp only [Interval.IsEmpty, not_le] at *
  omega

/-- No beginning of the sweep counts below zero. One that ends with a step down has behind it only
further steps down of the same rank, and with them it would hold every end together with its start. -/
theorem running_count_nonneg {intervals : List Interval} {start : List Boundary}
    (isPrefix : start <+: sweepOrder intervals) : 0 ≤ netSteps start := by
  induction start using List.reverseRecOn with
  | nil => exact le_refl _
  | append_singleton earlier event ih =>
      by_cases up : 0 ≤ event.step
      · have before := ih ((List.prefix_append _ _).trans isPrefix)
        have added : netSteps [event] = event.step := by simp [netSteps]
        rw [net_steps_append, added]
        omega
      · obtain ⟨later, split⟩ := isPrefix
        obtain ⟨upTo, after⟩ := ordered_around split
        have downs : netSteps (later.filter fun other => other.le event) ≤ 0 := by
          apply net_steps_nonpos
          intro other member
          obtain ⟨present, before⟩ := List.mem_filter.mp member
          have above := boundary_le_iff.mp (after other present)
          have below := boundary_le_iff.mp before
          omega
        have counted : netSteps ((sweepOrder intervals).filter fun other => other.le event) =
            netSteps (earlier ++ [event]) +
              netSteps (later.filter fun other => other.le event) := by
          rw [← split, List.filter_append, List.filter_eq_self.mpr upTo, net_steps_append]
        have whole : 0 ≤ netSteps ((sweepOrder intervals).filter fun other => other.le event) := by
          rw [net_steps_perm ((sweep_order_perm intervals).filter _)]
          apply net_steps_of_closed
          intro interval nonempty stops
          exact start_before_stop nonempty stops
        omega

theorem running_count_le_length {intervals : List Interval} {start : List Boundary}
    (isPrefix : start <+: sweepOrder intervals) : netSteps start ≤ intervals.length := by
  obtain ⟨cycle, bound⟩ := running_count_le_alive_count isPrefix
  have counted : aliveCount intervals cycle ≤ intervals.length := List.countP_le_length
  omega

theorem running_counts_in_range (intervals : List Interval) :
    ∀ count ∈ runningCounts 0 (sweepOrder intervals), 0 ≤ count ∧ count ≤ intervals.length := by
  intro count passed
  obtain ⟨start, isPrefix, same⟩ := running_count_of_beginning passed
  rw [zero_add] at same
  rw [same]
  exact ⟨running_count_nonneg isPrefix, running_count_le_length isPrefix⟩

/-- The sweep in signed words of 32 bits, which wrap around. -/
def sweepWords : Int32 → Int32 → List Boundary → Int32
  | _, peak, [] => peak
  | live, peak, boundary :: rest =>
      sweepWords (live + Int32.ofInt boundary.step) (max peak (live + Int32.ofInt boundary.step)) rest

theorem word_max_value (first second : Int32) :
    (max first second).toInt = max first.toInt second.toInt := by
  change (if first ≤ second then second else first).toInt = _
  split_ifs with ordered
  · rw [max_eq_right (Int32.le_iff_toInt_le.mp ordered)]
  · rw [Int32.le_iff_toInt_le, not_le] at ordered
    rw [max_eq_left ordered.le]

theorem word_step_value {live : Int32} {step : Int} (nonneg : 0 ≤ live.toInt + step)
    (fits : live.toInt + step < 2 ^ 31) :
    (live + Int32.ofInt step).toInt = live.toInt + step := by
  have width : (Int32.size : Int) = 2 ^ 32 := rfl
  rw [Int32.toInt_add, Int32.toInt_ofInt, Int.add_bmod_bmod]
  apply Int.bmod_eq_of_le <;> omega

/-- As long as no count leaves the range of words, the sweep in words is the sweep. -/
theorem word_sweep_value {live peak : Int32} {events : List Boundary}
    (fits : ∀ count ∈ runningCounts live.toInt events, 0 ≤ count ∧ count < 2 ^ 31) :
    (sweepWords live peak events).toInt = sweep live.toInt peak.toInt events := by
  induction events generalizing live peak with
  | nil => rfl
  | cons event rest ih =>
      rw [runningCounts, List.forall_mem_cons] at fits
      obtain ⟨⟨nonneg, below⟩, later⟩ := fits
      have stepped := word_step_value nonneg below
      rw [← stepped] at later
      rw [sweepWords, ih later, word_max_value, stepped, sweep]

theorem peak_eq_sweep (intervals : List Interval) :
    (peakOverlap intervals : Int) = sweep 0 0 (sweepOrder intervals) :=
  Int.toNat_of_nonneg (peak_le_sweep 0 0 (sweepOrder intervals))

theorem peak_of_words {intervals : List Interval} (short : intervals.length < 2 ^ 31) :
    (sweepWords 0 0 (sweepOrder intervals)).toInt = peakOverlap intervals := by
  rw [peak_eq_sweep]
  apply word_sweep_value
  intro count passed
  obtain ⟨nonneg, bound⟩ := running_counts_in_range intervals count passed
  exact ⟨nonneg, by omega⟩

theorem unsigned_of_nonneg_word {word : Int32} {value : Nat} (same : word.toInt = value) :
    word.toUInt32.toNat = value := by
  have nonneg : 0 ≤ word := by
    rw [Int32.le_iff_toInt_le, same]
    exact Int.natCast_nonneg value
  rw [Int32.toNat_toUInt32_of_le nonneg, ← Int32.toNat_toInt, same, Int.toNat_natCast]

theorem peak_eq_zero_iff (intervals : List Interval) :
    peakOverlap intervals = 0 ↔ ∀ interval ∈ intervals, interval.IsEmpty := by
  constructor
  · intro idle interval member
    by_contra nonempty
    have busy := peak_pos_of_mem member nonempty
    omega
  · intro allEmpty
    obtain ⟨cycle, busiest⟩ := busiest_cycle_exists intervals
    rw [← busiest, aliveCount, List.countP_eq_zero]
    intro interval member alive
    have idle := allEmpty interval member
    rw [decide_eq_true_eq] at alive
    simp only [Interval.IsEmpty, Interval.Alive] at *
    omega

/-- The sweep finds exactly the largest number of intervals under way at one cycle, whatever the
intervals; it is zero if all of them are empty. The count never falls below zero on the way and never
exceeds the number of intervals. Fewer than 2^31 of them are swept in signed words without overflow,
and the result is the same number when its word is taken for an unsigned one. -/
theorem peak_is_largest_alive_count (intervals : List Interval) :
    IsGreatest (Set.range (aliveCount intervals)) (peakOverlap intervals) ∧
      (peakOverlap intervals = 0 ↔ ∀ interval ∈ intervals, interval.IsEmpty) ∧
      (peakOverlap intervals : Int) = (runningCounts 0 (sweepOrder intervals)).foldl max 0 ∧
      (∀ count ∈ runningCounts 0 (sweepOrder intervals),
        0 ≤ count ∧ count ≤ intervals.length) ∧
      (intervals.length < 2 ^ 31 →
        (sweepWords 0 0 (sweepOrder intervals)).toInt = peakOverlap intervals ∧
          (sweepWords 0 0 (sweepOrder intervals)).toUInt32.toNat = peakOverlap intervals) := by
  refine ⟨?_, peak_eq_zero_iff intervals, ?_, running_counts_in_range intervals, ?_⟩
  · constructor
    · exact busiest_cycle_exists intervals
    · rintro count ⟨cycle, rfl⟩
      exact alive_count_le_peak intervals cycle
  · rw [peak_eq_sweep, sweep_eq_foldl_max]
  · intro short
    have value := peak_of_words short
    exact ⟨value, unsigned_of_nonneg_word value⟩

/-- An interval that comes twice counts twice, inverted and empty ones do not count, and one that
starts where others end is not under way with them. -/
theorem peak_of_mixed_intervals :
    [(⟨0, 3⟩ : Interval), ⟨5, 2⟩, ⟨0, 3⟩, ⟨2, 2⟩, ⟨3, 4⟩].length < 2 ^ 31 ∧
      (sweepWords 0 0 (sweepOrder [⟨0, 3⟩, ⟨5, 2⟩, ⟨0, 3⟩, ⟨2, 2⟩, ⟨3, 4⟩])).toUInt32.toNat = 2 ∧
      aliveCount [⟨0, 3⟩, ⟨5, 2⟩, ⟨0, 3⟩, ⟨2, 2⟩, ⟨3, 4⟩] 2 = 2 := by
  have short : [(⟨0, 3⟩ : Interval), ⟨5, 2⟩, ⟨0, 3⟩, ⟨2, 2⟩, ⟨3, 4⟩].length < 2 ^ 31 := by decide
  obtain ⟨-, -, -, -, inWords⟩ :=
    peak_is_largest_alive_count [⟨0, 3⟩, ⟨5, 2⟩, ⟨0, 3⟩, ⟨2, 2⟩, ⟨3, 4⟩]
  have peak : peakOverlap [⟨0, 3⟩, ⟨5, 2⟩, ⟨0, 3⟩, ⟨2, 2⟩, ⟨3, 4⟩] = 2 := by
    simp [peakOverlap, boundaries, Interval.IsEmpty, Boundary.le, List.mergeSort,
      List.MergeSort.Internal.splitInTwo, sweep]
  exact ⟨short, (inWords short).2.trans peak, by decide⟩

end Retirement
