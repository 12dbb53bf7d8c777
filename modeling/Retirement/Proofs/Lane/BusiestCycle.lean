import Mathlib.Algebra.Order.BigOperators.Group.List
import Mathlib.Algebra.Order.Ring.Int
import Mathlib.Data.List.Induction
import Mathlib.Data.Nat.Cast.Basic
import Retirement.Lane.Peak
import Retirement.Proofs.Ordering

/-!
The sweep finds the busiest cycle. Counting all boundaries up to a cycle gives the number of
intervals under way at that cycle, and these boundaries are a beginning of the sorted list. Any
other beginning stops between boundaries of one cycle; since the steps down come first, it counts
no more than the whole of that cycle.
-/

namespace Retirement

def aliveCount (intervals : List Interval) (cycle : Nat) : Nat :=
  intervals.countP fun i => decide (i.Alive cycle)

theorem alive_count_append (first second : List Interval) (cycle : Nat) :
    aliveCount (first ++ second) cycle = aliveCount first cycle + aliveCount second cycle :=
  List.countP_append

/-- What a list of boundaries adds to the running count. -/
def netSteps (events : List Boundary) : Int := (events.map Boundary.step).sum

theorem net_steps_append (first second : List Boundary) :
    netSteps (first ++ second) = netSteps first + netSteps second := by
  simp [netSteps]

theorem net_steps_perm {first second : List Boundary} (perm : first.Perm second) :
    netSteps first = netSteps second :=
  (perm.map Boundary.step).sum_eq

theorem net_steps_nonneg {events : List Boundary} (steps : ∀ event ∈ events, 0 ≤ event.step) :
    0 ≤ netSteps events := by
  apply List.sum_nonneg
  intro step member
  obtain ⟨event, present, rfl⟩ := List.mem_map.mp member
  exact steps event present

theorem peak_le_sweep (live peak : Int) (events : List Boundary) :
    peak ≤ sweep live peak events := by
  induction events generalizing live peak with
  | nil => exact le_refl peak
  | cons event rest ih => exact (le_max_left _ _).trans (ih _ _)

theorem running_count_le_sweep {live peak : Int} {start events : List Boundary}
    (started : live ≤ peak) (isPrefix : start <+: events) :
    live + netSteps start ≤ sweep live peak events := by
  induction events generalizing live peak start with
  | nil =>
      rw [List.prefix_nil] at isPrefix
      simpa [isPrefix, netSteps, sweep] using started
  | cons event rest ih =>
      rcases List.prefix_cons_iff.mp isPrefix with rfl | ⟨shorter, rfl, shorterPrefix⟩
      · simpa [netSteps] using started.trans (peak_le_sweep live peak (event :: rest))
      · have later := ih (le_max_right peak (live + event.step)) shorterPrefix
        simpa [netSteps, sweep, add_assoc] using later

/-- The sweep returns its first peak or one of the counts that it passes. -/
theorem sweep_attained (live peak : Int) (events : List Boundary) :
    sweep live peak events = peak ∨
      ∃ start, start <+: events ∧ sweep live peak events = live + netSteps start := by
  induction events generalizing live peak with
  | nil => exact Or.inl rfl
  | cons event rest ih =>
      rcases ih (live + event.step) (max peak (live + event.step)) with kept | ⟨start, isPrefix, same⟩
      · rcases max_choice peak (live + event.step) with old | new
        · exact Or.inl (by rw [sweep, kept, old])
        · refine Or.inr ⟨[event], by simp, ?_⟩
          rw [sweep, kept, new]
          simp [netSteps]
      · refine Or.inr ⟨event :: start, by simpa using isPrefix, ?_⟩
        rw [sweep, same]
        simp [netSteps, add_assoc]

theorem boundaries_cons (interval : Interval) (rest : List Interval) :
    boundaries (interval :: rest) =
      if interval.IsEmpty then boundaries rest
      else ⟨interval.start, 1⟩ :: ⟨interval.stop, -1⟩ :: boundaries rest := by
  unfold boundaries
  split_ifs with isEmpty <;> simp [isEmpty]

/-- An interval has added one and taken nothing away exactly while it is under way. -/
theorem net_steps_to_cycle (intervals : List Interval) (cycle : Nat) :
    netSteps ((boundaries intervals).filter fun event => decide (event.cycle ≤ cycle)) =
      aliveCount intervals cycle := by
  induction intervals with
  | nil => rfl
  | cons interval rest ih =>
      rw [boundaries_cons, aliveCount, List.countP_cons]
      change _ = ((aliveCount rest cycle + _ : Nat) : Int)
      rw [Nat.cast_add, ← ih]
      by_cases isEmpty : interval.IsEmpty
      · have notAlive : ¬ interval.Alive cycle := by
          simp only [Interval.IsEmpty, Interval.Alive] at *
          omega
        simp [isEmpty, notAlive]
      · simp only [if_neg isEmpty, List.filter_cons, decide_eq_true_eq]
        simp only [Interval.IsEmpty, not_le] at isEmpty
        by_cases stopped : interval.stop ≤ cycle
        · have started : interval.start ≤ cycle := by omega
          simp [Interval.Alive, netSteps, started, stopped, not_lt.mpr stopped]
        · by_cases started : interval.start ≤ cycle
          · simp [Interval.Alive, netSteps, started, stopped, not_le.mp stopped, add_comm]
          · simp [Interval.Alive, started, stopped]

def sweepOrder (intervals : List Interval) : List Boundary :=
  (boundaries intervals).mergeSort Boundary.le

theorem sweep_order_perm (intervals : List Interval) :
    (sweepOrder intervals).Perm (boundaries intervals) :=
  List.mergeSort_perm _ _

theorem boundary_le_iff {first second : Boundary} :
    first.le second = true ↔
      first.cycle < second.cycle ∨ first.cycle = second.cycle ∧ first.step ≤ second.step := by
  simp [Boundary.le]

theorem sweep_order_pairwise (intervals : List Interval) :
    (sweepOrder intervals).Pairwise fun first second => first.le second = true := by
  apply List.pairwise_mergeSort
  · intro first second third lower upper
    rw [boundary_le_iff] at *
    omega
  · intro first second
    rw [Bool.or_eq_true, boundary_le_iff, boundary_le_iff]
    omega

/-- Up to one boundary of the sorted list stand those that come before it, and behind it those that
come after. -/
theorem ordered_around {intervals : List Interval} {earlier later : List Boundary} {event : Boundary}
    (split : earlier ++ [event] ++ later = sweepOrder intervals) :
    (∀ other ∈ earlier ++ [event], other.le event = true) ∧
      ∀ other ∈ later, event.le other = true := by
  have ordered := sweep_order_pairwise intervals
  rw [← split, List.pairwise_append, List.pairwise_append] at ordered
  obtain ⟨⟨-, -, upTo⟩, -, across⟩ := ordered
  constructor
  · intro other member
    rcases List.mem_append.mp member with before | same
    · exact upTo other before event List.mem_cons_self
    · rw [List.mem_singleton.mp same, boundary_le_iff]
      exact Or.inr ⟨rfl, le_refl _⟩
  · intro other member
    exact across event (List.mem_append_right _ List.mem_cons_self) other member

theorem alive_count_eq_net_steps (intervals : List Interval) (cycle : Nat) :
    (aliveCount intervals cycle : Int) =
      netSteps ((sweepOrder intervals).filter fun event => decide (event.cycle ≤ cycle)) := by
  rw [← net_steps_to_cycle]
  exact net_steps_perm ((sweep_order_perm intervals).symm.filter _)

theorem boundaries_to_cycle_are_beginning (intervals : List Interval) (cycle : Nat) :
    ((sweepOrder intervals).filter fun event => decide (event.cycle ≤ cycle)) <+:
      sweepOrder intervals := by
  apply filter_is_beginning _ (sweep_order_pairwise intervals)
  intro first second ordered before
  rw [boundary_le_iff] at ordered
  simp only [decide_eq_true_eq] at *
  omega

theorem alive_count_le_peak (intervals : List Interval) (cycle : Nat) :
    aliveCount intervals cycle ≤ peakOverlap intervals := by
  have reached := running_count_le_sweep (le_refl (0 : Int))
    (boundaries_to_cycle_are_beginning intervals cycle)
  rw [← alive_count_eq_net_steps, zero_add] at reached
  change _ ≤ (sweep 0 0 (sweepOrder intervals)).toNat
  omega

/-- No beginning counts more than the intervals that are under way at some cycle. A beginning that
ends with a step up has all steps down of its cycle behind it. -/
theorem running_count_le_alive_count {intervals : List Interval} {start : List Boundary}
    (isPrefix : start <+: sweepOrder intervals) :
    ∃ cycle, netSteps start ≤ aliveCount intervals cycle := by
  induction start using List.reverseRecOn with
  | nil => exact ⟨0, by simp [netSteps]⟩
  | append_singleton earlier event ih =>
      by_cases down : event.step ≤ 0
      · obtain ⟨cycle, bound⟩ := ih ((List.prefix_append _ _).trans isPrefix)
        refine ⟨cycle, le_trans ?_ bound⟩
        rw [net_steps_append]
        simpa [netSteps] using down
      · obtain ⟨later, split⟩ := isPrefix
        obtain ⟨upTo, after⟩ := ordered_around split
        have whole : ∀ other ∈ earlier ++ [event], other.cycle ≤ event.cycle := by
          intro other member
          have lower := boundary_le_iff.mp (upTo other member)
          omega
        have rest : ∀ other ∈ later.filter fun other => decide (other.cycle ≤ event.cycle),
            0 ≤ other.step := by
          intro other member
          obtain ⟨present, sameCycle⟩ := List.mem_filter.mp member
          have above := boundary_le_iff.mp (after other present)
          simp only [decide_eq_true_eq] at sameCycle
          omega
        refine ⟨event.cycle, ?_⟩
        rw [alive_count_eq_net_steps, ← split, List.filter_append,
          List.filter_eq_self.mpr (by simpa using whole), net_steps_append (earlier ++ [event])]
        have nonneg := net_steps_nonneg rest
        omega

theorem peak_attained (intervals : List Interval) :
    ∃ cycle, peakOverlap intervals ≤ aliveCount intervals cycle := by
  rcases sweep_attained 0 0 (sweepOrder intervals) with idle | ⟨start, isPrefix, same⟩
  · refine ⟨0, ?_⟩
    change (sweep 0 0 (sweepOrder intervals)).toNat ≤ _
    rw [idle]
    exact Nat.zero_le _
  · obtain ⟨cycle, bound⟩ := running_count_le_alive_count isPrefix
    refine ⟨cycle, ?_⟩
    change (sweep 0 0 (sweepOrder intervals)).toNat ≤ _
    omega

end Retirement
