import Mathlib.Data.List.TakeWhile
import Mathlib.Order.Defs.LinearOrder
import Retirement.Interval

/-!
Order among intervals, and positions in lists. A test that goes down along the order of a list holds on
a beginning of the list and nowhere else; a search from the end stops at the last position at which
something is found.
-/

namespace Retirement

namespace Interval

theorem start_le_of_le {first second : Interval} (ordered : first ≤ second) :
    first.start ≤ second.start := by
  rw [le_iff] at ordered
  omega

/-- Non-empty intervals that start in order and do not overlap come one after the other. -/
theorem stop_le_start_of_disjoint {first second : Interval} (ordered : first.start ≤ second.start)
    (nonempty : ¬ second.IsEmpty) (disjoint : ¬ first.Overlaps second) :
    first.stop ≤ second.start := by
  simp only [IsEmpty, Overlaps, not_and, not_le, not_lt] at *
  exact disjoint (by omega)

/-- What starts before a cycle starts before it with everything that is not greater. -/
theorem starts_before_downward (stop : Nat) (first second : Interval) (ordered : first ≤ second)
    (before : decide (second.start < stop) = true) : decide (first.start < stop) = true := by
  rw [decide_eq_true_eq] at *
  exact Nat.lt_of_le_of_lt (start_le_of_le ordered) before

theorem at_most_downward (bound first second : Interval) (ordered : first ≤ second)
    (below : decide (second ≤ bound) = true) : decide (first ≤ bound) = true := by
  rw [decide_eq_true_eq] at *
  exact le_trans ordered below

end Interval

def OverlapFree (intervals : List Interval) : Prop :=
  intervals.Pairwise fun first second => ¬ first.Overlaps second

theorem overlap_free_perm {first second : List Interval} (perm : first.Perm second) :
    OverlapFree first ↔ OverlapFree second :=
  perm.pairwise_iff fun apart overlap => apart overlap.symm

/-- A symmetric relation holds of all pairs of a list if it holds at any two different positions. -/
theorem pairwise_iff_at_positions {Item : Type*} {relation : Item → Item → Prop}
    (symmetric : ∀ first second, relation first second → relation second first)
    (items : List Item) :
    items.Pairwise relation ↔ ∀ (i j : Nat) (first second : Item), i ≠ j →
      items[i]? = some first → items[j]? = some second → relation first second := by
  rw [List.pairwise_iff_getElem]
  constructor
  · intro related i j first second different iFound jFound
    obtain ⟨iBound, rfl⟩ := List.getElem?_eq_some_iff.mp iFound
    obtain ⟨jBound, rfl⟩ := List.getElem?_eq_some_iff.mp jFound
    rcases Nat.lt_or_gt_of_ne different with before | after
    · exact related i j iBound jBound before
    · exact symmetric _ _ (related j i jBound iBound after)
  · intro related i j iBound jBound before
    exact related i j _ _ (Nat.ne_of_lt before) (List.getElem?_eq_getElem iBound)
      (List.getElem?_eq_getElem jBound)

/-- In an ordered list a test that goes down along the order holds on a beginning of the list only,
so the end of that beginning can be found by halving. -/
theorem test_fails_past_beginning {Item : Type*} {order : Item → Item → Prop} {items : List Item}
    (test : Item → Bool) (ordered : items.Pairwise order)
    (downward : ∀ first second, order first second → test second = true → test first = true) :
    ∀ item ∈ items.dropWhile test, test item = false := by
  induction items with
  | nil => simp
  | cons first rest ih =>
      rw [List.pairwise_cons] at ordered
      rw [List.dropWhile_cons]
      split
      · exact ih ordered.2
      · rename_i stops
        intro item member
        rcases List.mem_cons.mp member with rfl | later
        · exact Bool.eq_false_iff.mpr stops
        · exact Bool.eq_false_iff.mpr fun holds =>
            stops (downward first item (ordered.1 item later) holds)

theorem filter_is_beginning {Item : Type*} {order : Item → Item → Prop} {items : List Item}
    (test : Item → Bool) (ordered : items.Pairwise order)
    (downward : ∀ first second, order first second → test second = true → test first = true) :
    items.filter test <+: items := by
  have early : ∀ item ∈ items.takeWhile test, test item = true :=
    fun _ member => List.mem_takeWhile_imp member
  have late := test_fails_past_beginning test ordered downward
  have same : items.filter test = items.takeWhile test := by
    calc
      items.filter test = (items.takeWhile test ++ items.dropWhile test).filter test := by
        rw [List.takeWhile_append_dropWhile]
      _ = items.takeWhile test := by
        rw [List.filter_append, List.filter_eq_self.mpr early,
          List.filter_eq_nil_iff.mpr fun item member => Bool.eq_false_iff.mp (late item member),
          List.append_nil]
  rw [same]
  exact List.takeWhile_prefix test

/-- A search from the end is decided at the last position, or goes on before it. -/
theorem last_found_succ {Item : Type*} (f : Nat → Option Item) (count : Nat) :
    (List.range (count + 1)).reverse.findSome? f =
      (f count <|> (List.range count).reverse.findSome? f) := by
  rw [List.range_succ, List.reverse_append, List.reverse_singleton, List.singleton_append,
    List.findSome?_cons]
  cases f count <;> rfl

theorem last_found_iff {Item : Type*} {f : Nat → Option Item} {count : Nat} {item : Item} :
    (List.range count).reverse.findSome? f = some item ↔
      ∃ last < count, f last = some item ∧
        ∀ later, last < later → later < count → f later = none := by
  induction count with
  | zero => simp
  | succ count ih =>
      rw [last_found_succ]
      cases here : f count with
      | none =>
          rw [Option.orElse_eq_orElse, Option.orElse_none, ih]
          constructor
          · intro earlier
            obtain ⟨last, before, found, nothing⟩ := earlier
            refine ⟨last, Nat.lt_succ_of_lt before, found, ?_⟩
            intro later above atMost
            rcases Nat.lt_succ_iff_lt_or_eq.mp atMost with between | rfl
            · exact nothing later above between
            · exact here
          · intro hit
            obtain ⟨last, atMost, found, nothing⟩ := hit
            have before : last < count := by
              rcases Nat.lt_succ_iff_lt_or_eq.mp atMost with before | rfl
              · exact before
              · rw [here] at found
                contradiction
            exact ⟨last, before, found,
              fun later above between => nothing later above (Nat.lt_succ_of_lt between)⟩
      | some nearest =>
          constructor
          · intro same
            exact ⟨count, Nat.lt_succ_self count, here.trans same, fun later above atMost => by omega⟩
          · intro hit
            obtain ⟨last, atMost, found, nothing⟩ := hit
            rcases Nat.lt_succ_iff_lt_or_eq.mp atMost with before | rfl
            · rw [nothing count before (Nat.lt_succ_self count)] at here
              contradiction
            · exact here.symm.trans found

theorem drop_eq_cons {Item : Type*} {items rest : List Item} {item : Item} {position : Nat}
    (split : items.drop position = item :: rest) :
    items[position]? = some item ∧ items.drop (position + 1) = rest := by
  constructor
  · rw [← List.head?_drop, split, List.head?_cons]
  · rw [← List.tail_drop, split, List.tail_cons]

end Retirement
