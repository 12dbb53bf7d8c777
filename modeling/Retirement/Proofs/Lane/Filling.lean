import Retirement.Proofs.Lane.Admission

/-!
A lane that is filled from nothing with admitted intervals, in any order. At every stage its intervals
are those placed so far, in order and apart, and both tests for admission agree. The searches in a lane
look for the end of a beginning, and in a lane that is filled so the test holds on a beginning only:
any search that respects this finds the same position.
-/

namespace Retirement

/-- A position that splits a list by a test: it holds of everything before, and of nothing from there
on. A search by halving is promised such a position to exist, and finds one. -/
structure SplitsAt {Item : Type*} (test : Item → Bool) (items : List Item) (position : Nat) :
    Prop where
  within : position ≤ items.length
  before : ∀ item ∈ items.take position, test item = true
  after : ∀ item ∈ items.drop position, test item = false

theorem drop_eq_of_take_eq {Item : Type*} {test : Item → Bool} {items : List Item} {position : Nat}
    (taken : items.take position = items.takeWhile test) :
    items.drop position = items.dropWhile test := by
  apply List.append_cancel_left
  rw [List.take_append_drop, taken, List.takeWhile_append_dropWhile]

/-- A test that goes down along an order splits every list in this order. -/
theorem splits_of_downward {Item : Type*} {order : Item → Item → Prop} {items : List Item}
    (test : Item → Bool) (ordered : items.Pairwise order)
    (downward : ∀ first second, order first second → test second = true → test first = true) :
    SplitsAt test items (items.takeWhile test).length := by
  have taken : items.take (items.takeWhile test).length = items.takeWhile test :=
    (List.prefix_iff_eq_take.mp (List.takeWhile_prefix test)).symm
  constructor
  · exact (List.takeWhile_prefix test).length_le
  · rw [taken]
    exact fun _ member => List.mem_takeWhile_imp member
  · rw [drop_eq_of_take_eq taken]
    exact test_fails_past_beginning test ordered downward

namespace SplitsAt

variable {Item : Type*} {test : Item → Bool} {items : List Item} {position : Nat}

theorem take_eq (splits : SplitsAt test items position) :
    items.take position = items.takeWhile test := by
  have stops : (items.drop position).takeWhile test = [] := by
    cases rest : items.drop position with
    | nil => rfl
    | cons item later =>
        apply List.takeWhile_cons_of_neg
        rw [splits.after item (rest ▸ List.mem_cons_self)]
        exact Bool.false_ne_true
  calc
    items.take position = items.take position ++ (items.drop position).takeWhile test := by
      rw [stops, List.append_nil]
    _ = (items.take position ++ items.drop position).takeWhile test :=
      (List.takeWhile_append_of_pos splits.before).symm
    _ = items.takeWhile test := by rw [List.take_append_drop]

/-- The last item of the beginning stands right before the position. -/
theorem last_eq (splits : SplitsAt test items position) :
    (items.takeWhile test).getLast? = if position = 0 then none else items[position - 1]? := by
  rw [← splits.take_eq, List.getLast?_take]
  split_ifs with first
  · rfl
  · have inside : position - 1 < items.length := by
      have within := splits.within
      omega
    rw [List.getElem?_eq_getElem inside, Option.some_or]

end SplitsAt

namespace Lane

/-- The lane after these intervals, each of which it admitted when its turn came. -/
inductive Filled : List Interval → Lane → Prop
  | new : Filled [] empty
  | place {intervals : List Interval} {lane : Lane} {interval : Interval}
      (filled : Filled intervals lane) (admitted : lane.admits interval = true) :
      Filled (intervals ++ [interval]) (lane.place interval)

theorem Filled.sound {intervals : List Interval} {lane : Lane} (filled : Filled intervals lane) :
    lane.Sound := by
  induction filled with
  | new => exact empty_sound
  | place _ admitted sound =>
      apply place_sound sound
      exact (admits_iff_disjoint sound _).mp admitted

theorem Filled.perm {intervals : List Interval} {lane : Lane} (filled : Filled intervals lane) :
    lane.placed.Perm intervals := by
  induction filled with
  | new => exact List.Perm.refl []
  | @place intervals lane interval _ _ perm =>
      apply (lane.place_perm interval).trans
      apply (perm.cons interval).trans
      exact (List.perm_append_singleton interval intervals).symm

theorem starts_split {lane : Lane} (sound : lane.Sound) (stop : Nat) :
    ∃ position, SplitsAt (fun p => decide (p.start < stop)) lane.placed position :=
  ⟨_, splits_of_downward _ sound.ordered (Interval.starts_before_downward stop)⟩

theorem order_splits {lane : Lane} (sound : lane.Sound) (interval : Interval) :
    ∃ position, SplitsAt (fun p => decide (p ≤ interval)) lane.placed position :=
  ⟨_, splits_of_downward _ sound.ordered (Interval.at_most_downward interval)⟩

theorem admits_before_split {lane : Lane} {interval : Interval}
    (neighbour : ¬ (interval.IsEmpty ∨ lane.hasEmpty = true)) {position : Nat}
    (splits : SplitsAt (fun p => decide (p.start < interval.stop)) lane.placed position) :
    lane.admits interval = true ↔ position = 0 ∨
      ∃ last, lane.placed[position - 1]? = some last ∧ last.stop ≤ interval.start := by
  rw [admits_by_neighbour neighbour, lastBefore, splits.last_eq]
  split_ifs with first
  · simp [first]
  · have inside : position - 1 < lane.placed.length := by
      have within := splits.within
      omega
    simp [first, List.getElem?_eq_getElem inside]

theorem place_at_split {lane : Lane} {interval : Interval} {position : Nat}
    (splits : SplitsAt (fun p => decide (p ≤ interval)) lane.placed position) :
    (lane.place interval).placed =
      lane.placed.take position ++ interval :: lane.placed.drop position := by
  rw [place, splits.take_eq, drop_eq_of_take_eq splits.take_eq]

/-- A lane that was filled with admitted intervals, in whatever order, keeps exactly these, sorted and
apart, and marks whether one of them is empty. It admits any interval, empty or not, exactly if
nothing in it overlaps the interval. Both of its searches are for a position that splits the lane:
there is one, and at whichever is found the neighbour before it decides admission, as long as nothing
is empty, and the interval is inserted. -/
theorem filled_lane_admits_what_is_apart {intervals : List Interval} {lane : Lane}
    (filled : Filled intervals lane) :
    lane.placed.Pairwise (· ≤ ·) ∧ OverlapFree lane.placed ∧ lane.placed.Perm intervals ∧
      (lane.hasEmpty = true ↔ ∃ interval ∈ intervals, interval.IsEmpty) ∧
      ∀ interval : Interval,
        (lane.admits interval = true ↔ ∀ p ∈ lane.placed, ¬ p.Overlaps interval) ∧
        (∃ position, SplitsAt (fun p => decide (p.start < interval.stop)) lane.placed position) ∧
        (¬ (interval.IsEmpty ∨ lane.hasEmpty = true) → ∀ position,
          SplitsAt (fun p => decide (p.start < interval.stop)) lane.placed position →
            (lane.admits interval = true ↔ position = 0 ∨
              ∃ last, lane.placed[position - 1]? = some last ∧ last.stop ≤ interval.start)) ∧
        (∃ position, SplitsAt (fun p => decide (p ≤ interval)) lane.placed position) ∧
        ∀ position, SplitsAt (fun p => decide (p ≤ interval)) lane.placed position →
          (lane.place interval).placed =
            lane.placed.take position ++ interval :: lane.placed.drop position := by
  have sound := filled.sound
  have perm := filled.perm
  have marked : lane.hasEmpty = true ↔ ∃ interval ∈ intervals, interval.IsEmpty := by
    simp only [sound.hasEmpty_iff, perm.mem_iff]
  refine ⟨sound.ordered, sound.disjoint, perm, marked, ?_⟩
  intro interval
  refine ⟨admits_iff_disjoint sound interval, starts_split sound interval.stop, ?_,
    order_splits sound interval, ?_⟩
  · intro neighbour position splits
    exact admits_before_split neighbour splits
  · intro position splits
    exact place_at_split splits

/-- An empty interval between two others stands in the way of one around it and of no other. -/
theorem empty_interval_blocks_its_surroundings :
    ∃ lane, Filled [⟨5, 8⟩, ⟨0, 2⟩, ⟨3, 3⟩] lane ∧ lane.hasEmpty = true ∧
      lane.admits ⟨2, 5⟩ ≠ true ∧ lane.admits ⟨2, 3⟩ = true ∧ lane.admits ⟨8, 6⟩ = true := by
  have first : Filled [⟨5, 8⟩] (empty.place ⟨5, 8⟩) := .place .new (by decide)
  have second : Filled [⟨5, 8⟩, ⟨0, 2⟩] ((empty.place ⟨5, 8⟩).place ⟨0, 2⟩) :=
    .place first (by decide)
  have filled : Filled [⟨5, 8⟩, ⟨0, 2⟩, ⟨3, 3⟩] _ := .place second (by decide)
  obtain ⟨_, _, perm, marked, each⟩ := filled_lane_admits_what_is_apart filled
  refine ⟨_, filled, marked.mpr ⟨⟨3, 3⟩, by decide, by decide⟩, ?_, ?_, ?_⟩
  · intro admitted
    exact (each ⟨2, 5⟩).1.mp admitted ⟨3, 3⟩ (perm.mem_iff.mpr (by decide)) (by decide)
  · exact (each ⟨2, 3⟩).1.mpr (by decide)
  · exact (each ⟨8, 6⟩).1.mpr (by decide)

end Lane

end Retirement
