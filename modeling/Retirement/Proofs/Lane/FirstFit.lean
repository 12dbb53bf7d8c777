import Mathlib.Data.List.Basic
import Mathlib.Order.Bounds.Basic
import Retirement.Proofs.Lane.Admission

/-!
Packing is plain first fit. The lanes that a packing keeps hold exactly what was placed so far, so
the number given to an interval is the least lane in which no interval placed before overlaps it.
The order of the intervals does not matter for this, and neither do empty ones.
-/

namespace Retirement

/-- The lane with a number. A lane that is not open yet counts as empty. -/
def laneAt (lanes : List Lane) (number : Nat) : Lane := lanes.getD number Lane.empty

theorem lane_at_cons_succ (lane : Lane) (lanes : List Lane) (number : Nat) :
    laneAt (lane :: lanes) (number + 1) = laneAt lanes number := by
  simp [laneAt]

theorem Lane.empty_admits (interval : Interval) : Lane.empty.admits interval = true := by
  rw [Lane.admits_iff_disjoint Lane.empty_sound]
  simp [Lane.empty]

theorem place_first_cons (lane : Lane) (lanes : List Lane) (interval : Interval) :
    placeFirst (lane :: lanes) interval =
      if lane.admits interval then (0, lane.place interval :: lanes)
      else ((placeFirst lanes interval).1 + 1, lane :: (placeFirst lanes interval).2) := rfl

theorem chosen_lane_admits (lanes : List Lane) (interval : Interval) :
    (laneAt lanes (placeFirst lanes interval).1).admits interval = true := by
  induction lanes with
  | nil => exact Lane.empty_admits interval
  | cons lane lanes ih =>
      rw [place_first_cons]
      split_ifs with admitted
      · exact admitted
      · rw [lane_at_cons_succ]
        exact ih

theorem lane_before_chosen_refuses (lanes : List Lane) (interval : Interval) (number : Nat)
    (before : number < (placeFirst lanes interval).1) :
    (laneAt lanes number).admits interval = false := by
  induction lanes generalizing number with
  | nil => simp [placeFirst] at before
  | cons lane lanes ih =>
      rw [place_first_cons] at before
      split_ifs at before with admitted
      · simp at before
      · cases number with
        | zero => exact Bool.eq_false_iff.mpr admitted
        | succ number =>
            rw [lane_at_cons_succ]
            exact ih number (by simpa using before)

/-- Only the chosen lane changes. -/
theorem lane_at_place_first (lanes : List Lane) (interval : Interval) (number : Nat) :
    laneAt (placeFirst lanes interval).2 number =
      if number = (placeFirst lanes interval).1 then (laneAt lanes number).place interval
      else laneAt lanes number := by
  induction lanes generalizing number with
  | nil => cases number <;> simp [placeFirst, laneAt]
  | cons lane lanes ih =>
      rw [place_first_cons]
      split_ifs with admitted chosen
      · simp [chosen, laneAt]
      · obtain ⟨later, rfl⟩ := Nat.exists_eq_succ_of_ne_zero chosen
        simp [laneAt]
      · rename_i chosen
        rw [chosen, lane_at_cons_succ, lane_at_cons_succ, ih, if_pos rfl]
      · rename_i other
        cases number with
        | zero => simp [laneAt]
        | succ number =>
            rw [lane_at_cons_succ, lane_at_cons_succ, ih, if_neg (by simpa using other)]

theorem chosen_lane_le_length (lanes : List Lane) (interval : Interval) :
    (placeFirst lanes interval).1 ≤ lanes.length := by
  induction lanes with
  | nil => simp [placeFirst]
  | cons lane lanes ih =>
      rw [place_first_cons]
      split_ifs <;> simp [ih]

theorem place_first_length (lanes : List Lane) (interval : Interval) :
    (placeFirst lanes interval).2.length =
      max lanes.length ((placeFirst lanes interval).1 + 1) := by
  induction lanes with
  | nil => simp [placeFirst]
  | cons lane lanes ih =>
      rw [place_first_cons]
      split_ifs
      · simp
      · simp only [List.length_cons, ih]
        omega

def freeLanes (placements : List (Interval × Nat)) (interval : Interval) : Set Nat :=
  {number | ∀ p, (p, number) ∈ placements → ¬ p.Overlaps interval}

theorem mem_free_lanes {placements : List (Interval × Nat)} {interval : Interval} {number : Nat} :
    number ∈ freeLanes placements interval ↔
      ∀ p, (p, number) ∈ placements → ¬ p.Overlaps interval := Iff.rfl

structure Holds (lanes : List Lane) (placements : List (Interval × Nat)) : Prop where
  sound : ∀ number, (laneAt lanes number).Sound
  mem_iff : ∀ number p, p ∈ (laneAt lanes number).placed ↔ (p, number) ∈ placements
  open_iff : ∀ number, number < lanes.length ↔ ∃ p, (p, number) ∈ placements

theorem no_lanes_hold_nothing : Holds [] [] where
  sound := fun _ => by simpa [laneAt] using Lane.empty_sound
  mem_iff := by simp [laneAt, Lane.empty]
  open_iff := by simp

theorem admits_iff_free {lanes : List Lane} {placements : List (Interval × Nat)}
    (holds : Holds lanes placements) (interval : Interval) (number : Nat) :
    (laneAt lanes number).admits interval = true ↔ number ∈ freeLanes placements interval := by
  rw [Lane.admits_iff_disjoint (holds.sound number), mem_free_lanes]
  simp only [holds.mem_iff]

theorem chosen_lane_is_least_free {lanes : List Lane} {placements : List (Interval × Nat)}
    (holds : Holds lanes placements) (interval : Interval) :
    IsLeast (freeLanes placements interval) (placeFirst lanes interval).1 := by
  constructor
  · exact (admits_iff_free holds interval _).mp (chosen_lane_admits lanes interval)
  · intro number free
    by_contra before
    have refused := lane_before_chosen_refuses lanes interval number (by omega)
    rw [← admits_iff_free holds interval number, refused] at free
    simp at free

theorem place_first_holds {lanes : List Lane} {placements : List (Interval × Nat)}
    (holds : Holds lanes placements) (interval : Interval) :
    Holds (placeFirst lanes interval).2
      (placements ++ [(interval, (placeFirst lanes interval).1)]) where
  sound number := by
    rw [lane_at_place_first]
    split_ifs with chosen
    · apply Lane.place_sound (holds.sound number)
      rw [← Lane.admits_iff_disjoint (holds.sound number), chosen]
      exact chosen_lane_admits lanes interval
    · exact holds.sound number
  mem_iff number p := by
    rw [lane_at_place_first]
    split_ifs with chosen
    · rw [Lane.mem_place, holds.mem_iff, ← chosen]
      simp [or_comm]
    · rw [holds.mem_iff]
      simp [chosen]
  open_iff number := by
    have bound := chosen_lane_le_length lanes interval
    have opened := holds.open_iff number
    rw [place_first_length]
    constructor
    · intro below
      by_cases chosen : number = (placeFirst lanes interval).1
      · exact ⟨interval, by simp [chosen]⟩
      · obtain ⟨p, member⟩ := opened.mp (by omega)
        exact ⟨p, List.mem_append_left _ member⟩
    · intro used
      obtain ⟨p, member⟩ := used
      rcases List.mem_append.mp member with before | new
      · have below := opened.mpr ⟨p, before⟩
        omega
      · simp only [List.mem_singleton, Prod.mk.injEq] at new
        omega

theorem pack_into_cons (lanes : List Lane) (interval : Interval) (rest : List Interval) :
    packInto lanes (interval :: rest) =
      ((placeFirst lanes interval).1 :: (packInto (placeFirst lanes interval).2 rest).1,
        (packInto (placeFirst lanes interval).2 rest).2) := rfl

theorem pack_into_assigns_all (lanes : List Lane) (intervals : List Interval) :
    (packInto lanes intervals).1.length = intervals.length := by
  induction intervals generalizing lanes with
  | nil => rfl
  | cons interval rest ih => simp [pack_into_cons, ih]

theorem pack_into_holds {lanes : List Lane} {placements : List (Interval × Nat)}
    (holds : Holds lanes placements) (intervals : List Interval) :
    Holds (packInto lanes intervals).2
      (placements ++ intervals.zip (packInto lanes intervals).1) := by
  induction intervals generalizing lanes placements with
  | nil => simpa [packInto] using holds
  | cons interval rest ih =>
      rw [pack_into_cons, List.zip_cons_cons, List.append_cons]
      exact ih (place_first_holds holds interval)

theorem pack_into_is_least_free {lanes : List Lane} {placements : List (Interval × Nat)}
    (holds : Holds lanes placements) (intervals : List Interval) (position : Nat)
    {interval : Interval} {number : Nat}
    (placed : (intervals.zip (packInto lanes intervals).1)[position]? = some (interval, number)) :
    IsLeast (freeLanes
      (placements ++ (intervals.zip (packInto lanes intervals).1).take position) interval)
      number := by
  induction intervals generalizing lanes placements position with
  | nil => simp at placed
  | cons first rest ih =>
      rw [pack_into_cons, List.zip_cons_cons] at placed ⊢
      cases position with
      | zero =>
          simp only [List.getElem?_cons_zero, Option.some.injEq, Prod.mk.injEq] at placed
          obtain ⟨rfl, rfl⟩ := placed
          simpa using chosen_lane_is_least_free holds first
      | succ position =>
          rw [List.getElem?_cons_succ] at placed
          rw [List.take_succ_cons, List.append_cons]
          exact ih (place_first_holds holds first) position placed

def placements (intervals : List Interval) : List (Interval × Nat) :=
  intervals.zip (pack intervals).assignments

theorem pack_assigns_all (intervals : List Interval) :
    (pack intervals).assignments.length = intervals.length :=
  pack_into_assigns_all [] intervals

theorem placements_map_fst (intervals : List Interval) :
    (placements intervals).map Prod.fst = intervals :=
  List.map_fst_zip (by rw [pack_assigns_all])

theorem placements_map_snd (intervals : List Interval) :
    (placements intervals).map Prod.snd = (pack intervals).assignments :=
  List.map_snd_zip (by rw [pack_assigns_all])

theorem lanes_hold_placements (intervals : List Interval) :
    Holds (packInto [] intervals).2 (placements intervals) := by
  have holds := pack_into_holds no_lanes_hold_nothing intervals
  rwa [List.nil_append] at holds

theorem lane_open_iff_used (intervals : List Interval) (number : Nat) :
    number < (pack intervals).laneCount ↔ number ∈ (pack intervals).assignments := by
  rw [← placements_map_snd, List.mem_map]
  refine ((lanes_hold_placements intervals).open_iff number).trans ⟨?_, ?_⟩
  · intro used
    obtain ⟨p, member⟩ := used
    exact ⟨(p, number), member, rfl⟩
  · intro used
    obtain ⟨⟨p, _⟩, member, rfl⟩ := used
    exact ⟨p, member⟩

theorem placement_is_least_free {intervals : List Interval} {position number : Nat}
    {interval : Interval} (placed : (placements intervals)[position]? = some (interval, number)) :
    IsLeast (freeLanes ((placements intervals).take position) interval) number := by
  have least := pack_into_is_least_free no_lanes_hold_nothing intervals position placed
  rwa [List.nil_append] at least

theorem placements_disjoint (intervals : List Interval) :
    (placements intervals).Pairwise fun first second =>
      first.2 = second.2 → ¬ first.1.Overlaps second.1 := by
  rw [List.pairwise_iff_getElem]
  intro i j iBound jBound before sameLane
  have free : (placements intervals)[j].2 ∈
      freeLanes ((placements intervals).take j) (placements intervals)[j].1 :=
    (placement_is_least_free (List.getElem?_eq_getElem jBound)).1
  rw [← sameLane] at free
  exact free _ (List.mem_take_iff_getElem.mpr ⟨i, by omega, rfl⟩)

/-- No interval at an earlier position that was assigned to the lane overlaps the interval at this
position. -/
def OpenLane (intervals : List Interval) (assignments : List Nat) (position lane : Nat) : Prop :=
  ∀ earlier < position, assignments[earlier]? = some lane →
    ∀ first second, intervals[earlier]? = some first → intervals[position]? = some second →
      ¬ first.Overlaps second

theorem placed_before_iff {intervals : List Interval} {position lane : Nat} {p : Interval} :
    (p, lane) ∈ (placements intervals).take position ↔
      ∃ earlier < position, intervals[earlier]? = some p ∧
        (pack intervals).assignments[earlier]? = some lane := by
  simp only [List.mem_iff_getElem?, List.getElem?_take, placements]
  constructor
  · intro placed
    obtain ⟨earlier, found⟩ := placed
    split_ifs at found with before
    exact ⟨earlier, before, List.getElem?_zip_eq_some.mp found⟩
  · intro placed
    obtain ⟨earlier, before, found⟩ := placed
    exact ⟨earlier, by rw [if_pos before]; exact List.getElem?_zip_eq_some.mpr found⟩

theorem open_lane_iff_free {intervals : List Interval} {position lane : Nat} {second : Interval}
    (found : intervals[position]? = some second) :
    OpenLane intervals (pack intervals).assignments position lane ↔
      lane ∈ freeLanes ((placements intervals).take position) second := by
  simp only [OpenLane, mem_free_lanes, placed_before_iff]
  constructor
  · intro opened p placed
    obtain ⟨earlier, before, interval, assigned⟩ := placed
    exact opened earlier before assigned p second interval found
  · intro free earlier before assigned first _ interval same
    obtain rfl := Option.some.inj (found.symm.trans same)
    exact free first ⟨earlier, before, interval, assigned⟩

theorem lane_count_follows_largest (intervals : List Interval) :
    (pack intervals).laneCount = ((pack intervals).assignments.max?.map (· + 1)).getD 0 := by
  have used := lane_open_iff_used intervals
  cases largest : (pack intervals).assignments.max? with
  | none =>
      rw [List.max?_eq_none_iff] at largest
      simp only [largest, List.not_mem_nil, iff_false] at used
      simpa using used 0
  | some number =>
      obtain ⟨member, bound⟩ := List.max?_eq_some_iff.mp largest
      have below := (used number).mpr member
      have notAbove : ¬ number + 1 < (pack intervals).laneCount := by
        intro above
        have atMost := bound _ ((used (number + 1)).mp above)
        omega
      simp only [Option.map_some, Option.getD_some]
      omega

/-- Packing agrees with plain first fit: every position has a lane, which is the least one that is
open to it, and lanes are opened only when used. So no two intervals in one lane overlap. -/
theorem pack_is_plain_first_fit (intervals : List Interval) :
    (pack intervals).assignments.length = intervals.length ∧
      (∀ position lane, (pack intervals).assignments[position]? = some lane →
        IsLeast {l | OpenLane intervals (pack intervals).assignments position l} lane) ∧
      (pack intervals).laneCount = ((pack intervals).assignments.max?.map (· + 1)).getD 0 ∧
      ∀ (i j lane : Nat) (first second : Interval), i ≠ j →
        (pack intervals).assignments[i]? = some lane →
        (pack intervals).assignments[j]? = some lane →
        intervals[i]? = some first → intervals[j]? = some second → ¬ first.Overlaps second := by
  have least : ∀ position lane, (pack intervals).assignments[position]? = some lane →
      IsLeast {l | OpenLane intervals (pack intervals).assignments position l} lane := by
    intro position lane assigned
    have bound : position < intervals.length := by
      rw [← pack_assigns_all]
      exact (List.getElem?_eq_some_iff.mp assigned).1
    have found := List.getElem?_eq_getElem bound
    have free : {l | OpenLane intervals (pack intervals).assignments position l} =
        freeLanes ((placements intervals).take position) intervals[position] :=
      Set.ext fun _ => open_lane_iff_free found
    rw [free]
    exact placement_is_least_free (List.getElem?_zip_eq_some.mpr ⟨found, assigned⟩)
  refine ⟨pack_assigns_all intervals, least, lane_count_follows_largest intervals, ?_⟩
  intro i j lane first second different iAssigned jAssigned iFound jFound overlap
  rcases Nat.lt_or_gt_of_ne different with before | after
  · exact (least j lane jAssigned).1 i before iAssigned first second iFound jFound overlap
  · exact (least i lane iAssigned).1 j after jAssigned second first jFound iFound overlap.symm

/-- An inverted interval shares a lane with an empty one, since neither starts before the other ends;
the lane below is closed to both of them. -/
theorem inverted_interval_shares_lane :
    let intervals : List Interval := [⟨0, 6⟩, ⟨2, 2⟩, ⟨1, 3⟩, ⟨5, 1⟩, ⟨6, 8⟩]
    (pack intervals).assignments = [0, 1, 2, 1, 0] ∧
      IsLeast {l | OpenLane intervals (pack intervals).assignments 3 l} 1 ∧
      ¬ Interval.Overlaps ⟨2, 2⟩ ⟨5, 1⟩ := by
  intro intervals
  obtain ⟨_, least, _, disjoint⟩ := pack_is_plain_first_fit intervals
  exact ⟨by decide, least 3 1 (by decide),
    disjoint 1 3 1 _ _ (by decide) (by decide) (by decide) rfl rfl⟩

end Retirement
