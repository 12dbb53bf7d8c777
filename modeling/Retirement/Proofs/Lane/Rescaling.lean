import Mathlib.Order.Monotone.Basic
import Retirement.Proofs.Lane.BusiestCycle
import Retirement.Proofs.Lane.FirstFit

/-!
Cycles are compared and never computed with. A map that increases strictly on the cycles that occur
therefore commutes with every step of packing and of the sweep, whatever it does elsewhere: each test
comes out as before, so that the same lanes are chosen and the same counts are passed.
-/

namespace Retirement

/-- The cycles at which some interval starts or ends. -/
def cyclesOf (intervals : List Interval) : Set Nat :=
  {cycle | ∃ interval ∈ intervals, cycle = interval.start ∨ cycle = interval.stop}

namespace Interval

def rescale (f : Nat → Nat) (interval : Interval) : Interval := ⟨f interval.start, f interval.stop⟩

def Within (cycles : Set Nat) (interval : Interval) : Prop :=
  interval.start ∈ cycles ∧ interval.stop ∈ cycles

theorem within_cycles_of {intervals : List Interval} {interval : Interval}
    (member : interval ∈ intervals) : interval.Within (cyclesOf intervals) :=
  ⟨⟨interval, member, Or.inl rfl⟩, ⟨interval, member, Or.inr rfl⟩⟩

variable {f : Nat → Nat} {cycles : Set Nat} {first second : Interval}

theorem rescale_overlaps_iff (increasing : StrictMonoOn f cycles) (firstWithin : first.Within cycles)
    (secondWithin : second.Within cycles) :
    (first.rescale f).Overlaps (second.rescale f) ↔ first.Overlaps second :=
  and_congr (increasing.lt_iff_lt firstWithin.1 secondWithin.2)
    (increasing.lt_iff_lt secondWithin.1 firstWithin.2)

theorem rescale_is_empty_iff (increasing : StrictMonoOn f cycles) (within : first.Within cycles) :
    (first.rescale f).IsEmpty ↔ first.IsEmpty :=
  increasing.le_iff_le within.2 within.1

theorem rescale_le_iff (increasing : StrictMonoOn f cycles) (firstWithin : first.Within cycles)
    (secondWithin : second.Within cycles) :
    first.rescale f ≤ second.rescale f ↔ first ≤ second := by
  have starts := increasing.lt_iff_lt firstWithin.1 secondWithin.1
  have same := increasing.injOn.eq_iff firstWithin.1 secondWithin.1
  have stops := increasing.le_iff_le firstWithin.2 secondWithin.2
  exact or_congr starts (and_congr same stops)

end Interval

/-- Tests that agree on a list stop at the same place in it. -/
theorem stops_of_same_tests {Item : Type*} {items : List Item} {test other : Item → Bool}
    (same : ∀ item ∈ items, test item = other item) :
    items.takeWhile test = items.takeWhile other ∧
      items.dropWhile test = items.dropWhile other := by
  induction items with
  | nil => exact ⟨rfl, rfl⟩
  | cons item rest ih =>
      obtain ⟨here, later⟩ := List.forall_mem_cons.mp same
      obtain ⟨taken, dropped⟩ := ih later
      rw [List.takeWhile_cons, List.takeWhile_cons, List.dropWhile_cons, List.dropWhile_cons, here,
        taken, dropped]
      exact ⟨rfl, rfl⟩

namespace Lane

def rescale (f : Nat → Nat) (lane : Lane) : Lane :=
  ⟨lane.placed.map (Interval.rescale f), lane.hasEmpty⟩

def Within (cycles : Set Nat) (lane : Lane) : Prop := ∀ p ∈ lane.placed, p.Within cycles

variable {f : Nat → Nat} {cycles : Set Nat} {lane : Lane} {interval : Interval}

theorem place_within (laneWithin : lane.Within cycles) (within : interval.Within cycles) :
    (lane.place interval).Within cycles := by
  intro p member
  rcases mem_place.mp member with rfl | before
  · exact within
  · exact laneWithin p before

theorem last_before_rescale (increasing : StrictMonoOn f cycles) (laneWithin : lane.Within cycles)
    {stop : Nat} (within : stop ∈ cycles) :
    (lane.rescale f).lastBefore (f stop) = (lane.lastBefore stop).map (Interval.rescale f) := by
  have tests : ∀ p ∈ lane.placed,
      decide ((p.rescale f).start < f stop) = decide (p.start < stop) := by
    intro p member
    exact decide_eq_decide.mpr (increasing.lt_iff_lt (laneWithin p member).1 within)
  rw [lastBefore, lastBefore, rescale, List.takeWhile_map, List.getLast?_map]
  exact congrArg (fun taken => taken.getLast?.map (Interval.rescale f)) (stops_of_same_tests tests).1

theorem admits_rescale (increasing : StrictMonoOn f cycles) (laneWithin : lane.Within cycles)
    (within : interval.Within cycles) :
    (lane.rescale f).admits (interval.rescale f) = lane.admits interval := by
  have scans : (interval.rescale f).IsEmpty ∨ (lane.rescale f).hasEmpty = true ↔
      interval.IsEmpty ∨ lane.hasEmpty = true :=
    or_congr_left (Interval.rescale_is_empty_iff increasing within)
  have apart : ∀ p ∈ lane.placed,
      ¬ (p.rescale f).Overlaps (interval.rescale f) ↔ ¬ p.Overlaps interval := by
    intro p member
    rw [Interval.rescale_overlaps_iff increasing (laneWithin p member) within]
  by_cases scan : interval.IsEmpty ∨ lane.hasEmpty = true
  · rw [admits, admits, if_pos scan, if_pos (scans.mpr scan), Bool.eq_iff_iff, List.all_eq_true,
      List.all_eq_true]
    simp only [rescale, List.forall_mem_map, decide_eq_true_eq]
    exact forall₂_congr apart
  · have neighbour : (lane.rescale f).lastBefore (interval.rescale f).stop =
        (lane.lastBefore interval.stop).map (Interval.rescale f) :=
      last_before_rescale increasing laneWithin within.2
    rw [admits_by_neighbour scan, admits_by_neighbour (mt scans.mp scan), neighbour]
    cases found : lane.lastBefore interval.stop with
    | none => rfl
    | some last =>
        have member : last ∈ lane.placed :=
          (List.takeWhile_sublist _).subset (List.mem_of_getLast? found)
        exact decide_eq_decide.mpr (increasing.le_iff_le (laneWithin last member).2 within.1)

theorem place_rescale (increasing : StrictMonoOn f cycles) (laneWithin : lane.Within cycles)
    (within : interval.Within cycles) :
    (lane.rescale f).place (interval.rescale f) = (lane.place interval).rescale f := by
  have tests : ∀ p ∈ lane.placed,
      decide (p.rescale f ≤ interval.rescale f) = decide (p ≤ interval) := by
    intro p member
    exact decide_eq_decide.mpr
      (Interval.rescale_le_iff increasing (laneWithin p member) within)
  obtain ⟨taken, dropped⟩ := stops_of_same_tests tests
  have marks : decide (interval.rescale f).IsEmpty = decide interval.IsEmpty :=
    decide_eq_decide.mpr (Interval.rescale_is_empty_iff increasing within)
  simp only [place, rescale, List.takeWhile_map, List.dropWhile_map, List.map_append, List.map_cons,
    marks, Function.comp_def, taken, dropped]

end Lane

section Packing

variable {f : Nat → Nat} {cycles : Set Nat}

theorem empty_lane_within (cycles : Set Nat) : Lane.empty.Within cycles := by
  intro p member
  contradiction

/-- One placement chooses the same lane, and leaves rescaled lanes behind. -/
theorem place_first_rescale (increasing : StrictMonoOn f cycles) {lanes : List Lane}
    (lanesWithin : ∀ lane ∈ lanes, lane.Within cycles) {interval : Interval}
    (within : interval.Within cycles) :
    placeFirst (lanes.map (Lane.rescale f)) (interval.rescale f) =
      ((placeFirst lanes interval).1, (placeFirst lanes interval).2.map (Lane.rescale f)) := by
  induction lanes with
  | nil =>
      have placed := Lane.place_rescale increasing (empty_lane_within cycles) within
      exact congrArg (fun lane => (0, [lane])) placed
  | cons lane rest ih =>
      obtain ⟨here, others⟩ := List.forall_mem_cons.mp lanesWithin
      rw [List.map_cons, place_first_cons, place_first_cons,
        Lane.admits_rescale increasing here within, ih others]
      split_ifs
      · rw [Lane.place_rescale increasing here within, List.map_cons]
      · rw [List.map_cons]

theorem place_first_within {lanes : List Lane} (lanesWithin : ∀ lane ∈ lanes, lane.Within cycles)
    {interval : Interval} (within : interval.Within cycles) :
    ∀ lane ∈ (placeFirst lanes interval).2, lane.Within cycles := by
  induction lanes with
  | nil =>
      intro lane member
      rw [List.mem_singleton.mp member]
      exact Lane.place_within (empty_lane_within cycles) within
  | cons lane rest ih =>
      obtain ⟨here, others⟩ := List.forall_mem_cons.mp lanesWithin
      rw [place_first_cons]
      split_ifs
      · exact List.forall_mem_cons.mpr ⟨Lane.place_within here within, others⟩
      · exact List.forall_mem_cons.mpr ⟨here, ih others⟩

theorem pack_into_rescale (increasing : StrictMonoOn f cycles) {lanes : List Lane}
    (lanesWithin : ∀ lane ∈ lanes, lane.Within cycles) {intervals : List Interval}
    (within : ∀ interval ∈ intervals, interval.Within cycles) :
    packInto (lanes.map (Lane.rescale f)) (intervals.map (Interval.rescale f)) =
      ((packInto lanes intervals).1, (packInto lanes intervals).2.map (Lane.rescale f)) := by
  induction intervals generalizing lanes with
  | nil => rfl
  | cons interval rest ih =>
      obtain ⟨here, later⟩ := List.forall_mem_cons.mp within
      have after := ih (place_first_within lanesWithin here) later
      rw [List.map_cons, pack_into_cons, pack_into_cons,
        place_first_rescale increasing lanesWithin here, after]

theorem pack_rescale (increasing : StrictMonoOn f cycles) {intervals : List Interval}
    (within : ∀ interval ∈ intervals, interval.Within cycles) :
    pack (intervals.map (Interval.rescale f)) = pack intervals := by
  have noLanes : ∀ lane ∈ ([] : List Lane), lane.Within cycles := by
    intro lane member
    contradiction
  have packed := pack_into_rescale increasing noLanes within
  have parts : ∀ list, pack list = ⟨(packInto [] list).1, (packInto [] list).2.length⟩ :=
    fun _ => rfl
  rw [List.map_nil] at packed
  simp only [parts, packed, List.length_map]

end Packing

def Boundary.rescale (f : Nat → Nat) (boundary : Boundary) : Boundary :=
  { boundary with cycle := f boundary.cycle }

section Sweep

variable {f : Nat → Nat} {cycles : Set Nat}

theorem boundaries_rescale (increasing : StrictMonoOn f cycles) {intervals : List Interval}
    (within : ∀ interval ∈ intervals, interval.Within cycles) :
    boundaries (intervals.map (Interval.rescale f)) =
      (boundaries intervals).map (Boundary.rescale f) := by
  induction intervals with
  | nil => rfl
  | cons interval rest ih =>
      obtain ⟨here, later⟩ := List.forall_mem_cons.mp within
      rw [List.map_cons, boundaries_cons, boundaries_cons, ih later]
      by_cases isEmpty : interval.IsEmpty
      · have rescaledEmpty := (Interval.rescale_is_empty_iff increasing here).mpr isEmpty
        rw [if_pos isEmpty, if_pos rescaledEmpty]
      · have rescaledNonempty := mt (Interval.rescale_is_empty_iff increasing here).mp isEmpty
        rw [if_neg isEmpty, if_neg rescaledNonempty]
        rfl

theorem boundary_cycle_within {intervals : List Interval}
    (within : ∀ interval ∈ intervals, interval.Within cycles) :
    ∀ event ∈ boundaries intervals, event.cycle ∈ cycles := by
  intro event member
  obtain ⟨interval, present, ends⟩ := List.mem_flatMap.mp member
  obtain ⟨starts, stops⟩ := within interval (List.mem_of_mem_filter present)
  simp only [List.mem_cons, List.not_mem_nil, or_false] at ends
  rcases ends with rfl | rfl
  · exact starts
  · exact stops

/-- The order of boundaries looks at cycles by comparison only, and at steps where cycles are equal. -/
theorem boundary_le_rescale (increasing : StrictMonoOn f cycles) {first second : Boundary}
    (firstWithin : first.cycle ∈ cycles) (secondWithin : second.cycle ∈ cycles) :
    first.le second = (first.rescale f).le (second.rescale f) := by
  have before := increasing.lt_iff_lt firstWithin secondWithin
  have same := increasing.injOn.eq_iff firstWithin secondWithin
  rw [Bool.eq_iff_iff, boundary_le_iff, boundary_le_iff]
  exact or_congr before.symm (and_congr same.symm Iff.rfl)

theorem sweep_rescale (live peak : Int) (events : List Boundary) :
    sweep live peak (events.map (Boundary.rescale f)) = sweep live peak events := by
  induction events generalizing live peak with
  | nil => rfl
  | cons event rest ih => exact ih _ _

theorem peak_rescale (increasing : StrictMonoOn f cycles) {intervals : List Interval}
    (within : ∀ interval ∈ intervals, interval.Within cycles) :
    peakOverlap (intervals.map (Interval.rescale f)) = peakOverlap intervals := by
  have sorted : (boundaries (intervals.map (Interval.rescale f))).mergeSort Boundary.le =
      ((boundaries intervals).mergeSort Boundary.le).map (Boundary.rescale f) := by
    rw [boundaries_rescale increasing within]
    apply Eq.symm
    apply List.map_mergeSort
    intro first isFirst second isSecond
    exact boundary_le_rescale increasing (boundary_cycle_within within first isFirst)
      (boundary_cycle_within within second isSecond)
  rw [peakOverlap, peakOverlap, sorted, sweep_rescale]

end Sweep

end Retirement
