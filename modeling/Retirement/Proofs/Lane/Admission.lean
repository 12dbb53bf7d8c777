import Retirement.Lane.Basic
import Retirement.Proofs.Ordering

/-!
What a lane keeps while it is filled one admitted interval after the other: its intervals stay in
order, no two of them overlap, and the mark says whether one is empty. From this alone a lane admits
an interval exactly when nothing in it overlaps the interval, whichever of the two tests decides.
-/

namespace Retirement

namespace Lane

structure Sound (lane : Lane) : Prop where
  ordered : lane.placed.Pairwise (· ≤ ·)
  disjoint : OverlapFree lane.placed
  hasEmpty_iff : lane.hasEmpty = true ↔ ∃ interval ∈ lane.placed, interval.IsEmpty

theorem empty_sound : empty.Sound where
  ordered := List.Pairwise.nil
  disjoint := List.Pairwise.nil
  hasEmpty_iff := by simp [empty]

theorem starts_late_past_beginning {lane : Lane} (sound : lane.Sound) (stop : Nat) :
    ∀ p ∈ lane.placed.dropWhile (fun p => decide (p.start < stop)), stop ≤ p.start := by
  intro p member
  have fails := test_fails_past_beginning _ sound.ordered (Interval.starts_before_downward stop) p member
  simpa using fails

theorem greater_past_beginning {lane : Lane} (sound : lane.Sound) (interval : Interval) :
    ∀ p ∈ lane.placed.dropWhile (fun p => decide (p ≤ interval)), interval ≤ p := by
  intro p member
  have fails := test_fails_past_beginning _ sound.ordered (Interval.at_most_downward interval) p member
  rcases Interval.le_total p interval with below | above
  · simp only [decide_eq_false_iff_not] at fails
    exact absurd below fails
  · exact above

theorem place_perm (lane : Lane) (interval : Interval) :
    (lane.place interval).placed.Perm (interval :: lane.placed) := by
  refine List.perm_middle.trans ?_
  rw [List.takeWhile_append_dropWhile]

theorem mem_place {lane : Lane} {interval p : Interval} :
    p ∈ (lane.place interval).placed ↔ p = interval ∨ p ∈ lane.placed := by
  rw [(lane.place_perm interval).mem_iff, List.mem_cons]

theorem place_ordered {lane : Lane} (sound : lane.Sound) (interval : Interval) :
    (lane.place interval).placed.Pairwise (· ≤ ·) := by
  have late := greater_past_beginning sound interval
  have early : ∀ p ∈ lane.placed.takeWhile (fun p => decide (p ≤ interval)), p ≤ interval := by
    intro p member
    simpa using List.mem_takeWhile_imp member
  refine List.pairwise_append.mpr ⟨?_, List.pairwise_cons.mpr ⟨late, ?_⟩, ?_⟩
  · exact sound.ordered.sublist (List.takeWhile_sublist _)
  · exact sound.ordered.sublist (List.dropWhile_sublist _)
  · intro first before second after
    rcases List.mem_cons.mp after with rfl | past
    · exact early first before
    · exact Interval.le_trans (early first before) (late second past)

theorem place_sound {lane : Lane} (sound : lane.Sound) {interval : Interval}
    (apart : ∀ p ∈ lane.placed, ¬ p.Overlaps interval) : (lane.place interval).Sound where
  ordered := place_ordered sound interval
  disjoint := by
    rw [overlap_free_perm (lane.place_perm interval)]
    refine List.pairwise_cons.mpr ⟨?_, sound.disjoint⟩
    intro p member overlap
    exact apart p member overlap.symm
  hasEmpty_iff := by
    have marked : (lane.place interval).hasEmpty = true ↔
        lane.hasEmpty = true ∨ interval.IsEmpty := by simp [place]
    simp only [marked, mem_place, sound.hasEmpty_iff]
    constructor
    · intro emptyBefore
      rcases emptyBefore with ⟨p, member, isEmpty⟩ | isEmpty
      · exact ⟨p, Or.inr member, isEmpty⟩
      · exact ⟨interval, Or.inl rfl, isEmpty⟩
    · intro emptyAfter
      rcases emptyAfter with ⟨p, rfl | member, isEmpty⟩
      · exact Or.inr isEmpty
      · exact Or.inl ⟨p, member, isEmpty⟩

/-- While no interval is empty, those that start before a cycle end no later than the last of them:
each ends before any later one starts, and that one still has to end. -/
theorem beginning_ends_with_last {lane : Lane} (sound : lane.Sound)
    (noEmpty : lane.hasEmpty = false) {stop : Nat} {last : Interval}
    (found : lane.lastBefore stop = some last) :
    ∀ p ∈ lane.placed.takeWhile (fun p => decide (p.start < stop)), p.stop ≤ last.stop := by
  obtain ⟨others, split⟩ := List.getLast?_eq_some_iff.mp found
  have sublist : (others ++ [last]).Sublist lane.placed := by
    rw [← split]
    exact List.takeWhile_sublist _
  have ordered := List.pairwise_append.mp (sound.ordered.sublist sublist)
  have disjoint := List.pairwise_append.mp (sound.disjoint.sublist sublist)
  have nonempty : ¬ last.IsEmpty := by
    intro isEmpty
    have marked := sound.hasEmpty_iff.mpr ⟨last, sublist.subset (by simp), isEmpty⟩
    simp [noEmpty] at marked
  intro p member
  rw [split, List.mem_append, List.mem_singleton] at member
  rcases member with earlier | rfl
  · have ends := Interval.stop_le_start_of_disjoint
      (Interval.start_le_of_le (ordered.2.2 p earlier last (by simp))) nonempty
      (disjoint.2.2 p earlier last (by simp))
    simp only [Interval.IsEmpty] at nonempty
    omega
  · exact Nat.le_refl _

/-- The neighbour test. Everything up to the neighbour ends no later than the neighbour, and
everything after it starts too late to be in the way. -/
theorem neighbour_decides {lane : Lane} (sound : lane.Sound) (noEmpty : lane.hasEmpty = false)
    (interval : Interval) :
    (∀ last, lane.lastBefore interval.stop = some last → last.stop ≤ interval.start) ↔
      ∀ p ∈ lane.placed, ¬ p.Overlaps interval := by
  constructor
  · intro neighbour p member overlap
    rw [← List.takeWhile_append_dropWhile (p := fun p => decide (p.start < interval.stop))
      (l := lane.placed), List.mem_append] at member
    simp only [Interval.Overlaps] at overlap
    rcases member with before | after
    · have found : lane.lastBefore interval.stop = some _ :=
        List.getLast?_eq_some_getLast (List.ne_nil_of_mem before)
      have ends := beginning_ends_with_last sound noEmpty found p before
      have lastEnds := neighbour _ found
      omega
    · have late := starts_late_past_beginning sound interval.stop p after
      omega
  · intro apart last found
    have member := List.mem_of_getLast? found
    have before : last.start < interval.stop := by simpa using List.mem_takeWhile_imp member
    have disjoint := apart last ((List.takeWhile_sublist _).subset member)
    simp only [Interval.Overlaps, not_and, not_lt] at disjoint
    exact disjoint before

/-- Where no empty interval is involved the neighbour decides, and without one nothing is in the way. -/
theorem admits_by_neighbour {lane : Lane} {interval : Interval}
    (neighbour : ¬ (interval.IsEmpty ∨ lane.hasEmpty = true)) :
    lane.admits interval =
      (lane.lastBefore interval.stop).all fun last => decide (last.stop ≤ interval.start) := by
  rw [admits, if_neg neighbour]
  cases lane.lastBefore interval.stop <;> rfl

/-- A lane admits an interval exactly when nothing in it overlaps the interval. -/
theorem admits_iff_disjoint {lane : Lane} (sound : lane.Sound) (interval : Interval) :
    lane.admits interval = true ↔ ∀ p ∈ lane.placed, ¬ p.Overlaps interval := by
  by_cases scan : interval.IsEmpty ∨ lane.hasEmpty = true
  · simp [admits, if_pos scan]
  · have noEmpty : lane.hasEmpty = false := by simpa using (not_or.mp scan).2
    rw [← neighbour_decides sound noEmpty, admits_by_neighbour scan, Option.all_eq_true]
    simp only [decide_eq_true_eq]

end Lane

end Retirement
