/-!
Half-open intervals of cycles. Nothing forces an interval to end after it starts; one that does not
is empty, and still has a place among the others.
-/

namespace Retirement

/-- The cycles from `start` up to, and not including, `stop`. -/
structure Interval where
  start : Nat
  stop : Nat
  deriving DecidableEq, Repr

namespace Interval

/-- Each starts before the other ends. For non-empty intervals this says that they share a cycle. -/
def Overlaps (first second : Interval) : Prop :=
  first.start < second.stop ∧ second.start < first.stop

instance (first second : Interval) : Decidable (first.Overlaps second) :=
  inferInstanceAs (Decidable (_ ∧ _))

def IsEmpty (interval : Interval) : Prop := interval.stop ≤ interval.start

instance (interval : Interval) : Decidable interval.IsEmpty :=
  inferInstanceAs (Decidable (_ ≤ _))

def Alive (cycle : Nat) (interval : Interval) : Prop :=
  interval.start ≤ cycle ∧ cycle < interval.stop

instance (cycle : Nat) (interval : Interval) : Decidable (interval.Alive cycle) :=
  inferInstanceAs (Decidable (_ ∧ _))

/-- By start, and among equal starts by end. -/
instance : LE Interval :=
  ⟨fun first second =>
    first.start < second.start ∨ first.start = second.start ∧ first.stop ≤ second.stop⟩

instance (first second : Interval) : Decidable (first ≤ second) :=
  inferInstanceAs (Decidable (_ ∨ _))

instance : Ord Interval :=
  ⟨fun first second => (compare first.start second.start).then (compare first.stop second.stop)⟩

def display (interval : Interval) : String :=
  "[" ++ toString interval.start ++ ", " ++ toString interval.stop ++ ")"

theorem Overlaps.symm {first second : Interval} (overlap : first.Overlaps second) :
    second.Overlaps first :=
  ⟨overlap.2, overlap.1⟩

theorem le_iff {first second : Interval} :
    first ≤ second ↔
      first.start < second.start ∨ first.start = second.start ∧ first.stop ≤ second.stop :=
  Iff.rfl

theorem le_trans {first second third : Interval} (lower : first ≤ second) (upper : second ≤ third) :
    first ≤ third := by
  rw [le_iff] at *
  omega

theorem le_total (first second : Interval) : first ≤ second ∨ second ≤ first := by
  rw [le_iff, le_iff]
  omega

theorem le_antisymm {first second : Interval} (lower : first ≤ second) (upper : second ≤ first) :
    first = second := by
  cases first
  cases second
  simp only [le_iff, mk.injEq] at *
  omega

end Interval

end Retirement
