import Retirement.Proofs.Trace.Fields

/-!
Drafts. A draft gains exactly the field that is read into it, and a row comes out of it only if it has
every field that cannot be left out.
-/

namespace Retirement.Trace

open Json

def Draft.of (row : Row) (fields : List Field) : Draft where
  mnemonic := if .mnemonic ∈ fields then some row.mnemonic else none
  unit := if .unit ∈ fields then some row.unit else none
  startCycle := if .startCycle ∈ fields then some row.startCycle else none
  endCycle := if .endCycle ∈ fields then some row.endCycle else none
  pc := if .pc ∈ fields then some row.pc else none

theorem draft_of_has (row : Row) (fields : List Field) (field : Field) :
    (Draft.of row fields).has field = decide (field ∈ fields) := by
  cases field <;> simp only [Draft.of, Draft.has] <;> split <;> simp_all

theorem finish_draft_of {row : Row} {fields : List Field}
    (present : ∀ field : Field, field ≠ .pc ∨ row.pc ≠ none → field ∈ fields) :
    (Draft.of row fields).finish = .ok row := by
  have mnemonic := present .mnemonic (Or.inl (by decide))
  have unit := present .unit (Or.inl (by decide))
  have startCycle := present .startCycle (Or.inl (by decide))
  have endCycle := present .endCycle (Or.inl (by decide))
  have pc : (if .pc ∈ fields then some row.pc else none).getD none = row.pc := by
    cases known : row.pc with
    | none => split <;> rfl
    | some address =>
        rw [if_pos (present .pc (Or.inr (by simp [known])))]
        rfl
  simp only [Draft.finish, Draft.of, mnemonic, unit, startCycle, endCycle, if_true, Draft.require, pc]
  rfl

/-- A row that is finished has all the fields that cannot be left out. -/
theorem has_of_finish {draft : Draft} {row : Row} (finished : draft.finish = .ok row)
    {field : Field} (other : field ≠ .pc) : draft.has field = true := by
  obtain ⟨mnemonic, first, finished⟩ := ok_of_bind finished
  obtain ⟨u, second, finished⟩ := ok_of_bind finished
  obtain ⟨startCycle, third, finished⟩ := ok_of_bind finished
  obtain ⟨endCycle, fourth, _⟩ := ok_of_bind finished
  have present : ∀ {Kind : Type} {needed : Field} {read : Option Kind} {a : Kind},
      Draft.require needed read = .ok a → read.isSome = true := by
    intro Kind needed read a found
    cases read with
    | none => contradiction
    | some a => rfl
  cases field with
  | mnemonic => exact present first
  | unit => exact present second
  | startCycle => exact present third
  | endCycle => exact present fourth
  | pc => contradiction

theorem read_draft_of {row : Row} (fits : row.Fits) {field : Field} {text : List Char}
    (written : FieldText row field text) {gap tail : List Char} (blank : Blank gap)
    (ends : Ends tail) (rounds : Nat) (fields : List Field) (offset : Nat) :
    ∃ after, (Draft.of row fields).read rounds field ⟨offset, gap ++ (text ++ tail)⟩ =
      .ok (.ok (Draft.of row (field :: fields)), ⟨after, tail⟩) := by
  cases field with
  | mnemonic =>
      obtain ⟨after, read⟩ := read_mnemonic_text blank offset written tail
      refine ⟨after, ?_⟩
      simp [Draft.read, read, Draft.of, bind, Except.bind]
  | unit =>
      obtain ⟨after, read⟩ := read_unit_text blank offset written tail
      refine ⟨after, ?_⟩
      simp [Draft.read, read, Draft.of, bind, Except.bind]
  | startCycle =>
      obtain ⟨after, read⟩ := read_cycle_text blank offset written fits.startCycle ends
      refine ⟨after, ?_⟩
      simp [Draft.read, read, Draft.of, bind, Except.bind]
  | endCycle =>
      obtain ⟨after, read⟩ := read_cycle_text blank offset written fits.endCycle ends
      refine ⟨after, ?_⟩
      simp [Draft.read, read, Draft.of, bind, Except.bind]
  | pc =>
      obtain ⟨after, read⟩ := read_pc_text blank offset written fits.pc ends rounds
      refine ⟨after, ?_⟩
      simp [Draft.read, read, Draft.of, bind, Except.bind, Except.map]

theorem read_draft_stops {value : List Char} (formed : WellFormed value) {gap tail : List Char}
    (blank : Blank gap) (ends : Ends tail) {rounds : Nat} {draft next : Draft} {field : Field}
    {offset : Nat} {cursor : Cursor}
    (read : draft.read rounds field ⟨offset, gap ++ (value ++ tail)⟩ = .ok (.ok next, cursor)) :
    cursor.rest = tail ∧ ∀ other, next.has other = (decide (other = field) || draft.has other) := by
  cases field with
  | mnemonic =>
      obtain ⟨⟨mnemonic, after⟩, first, final⟩ := ok_of_bind read
      obtain ⟨same, rfl⟩ := Prod.mk.inj (Except.ok.inj final)
      obtain rfl := Except.ok.inj same
      refine ⟨read_mnemonic_stops blank formed first, ?_⟩
      intro other
      cases other <;> simp [Draft.has]
  | unit =>
      obtain ⟨⟨u, after⟩, first, final⟩ := ok_of_bind read
      obtain ⟨same, rfl⟩ := Prod.mk.inj (Except.ok.inj final)
      obtain rfl := Except.ok.inj same
      refine ⟨read_unit_stops blank formed first, ?_⟩
      intro other
      cases other <;> simp [Draft.has]
  | startCycle =>
      obtain ⟨⟨cycle, after⟩, first, final⟩ := ok_of_bind read
      obtain ⟨same, rfl⟩ := Prod.mk.inj (Except.ok.inj final)
      obtain rfl := Except.ok.inj same
      refine ⟨read_cycle_stops blank formed ends first, ?_⟩
      intro other
      cases other <;> simp [Draft.has]
  | endCycle =>
      obtain ⟨⟨cycle, after⟩, first, final⟩ := ok_of_bind read
      obtain ⟨same, rfl⟩ := Prod.mk.inj (Except.ok.inj final)
      obtain rfl := Except.ok.inj same
      refine ⟨read_cycle_stops blank formed ends first, ?_⟩
      intro other
      cases other <;> simp [Draft.has]
  | pc =>
      obtain ⟨⟨pc, after⟩, first, final⟩ := ok_of_bind read
      obtain ⟨same, rfl⟩ := Prod.mk.inj (Except.ok.inj final)
      cases pc with
      | error fault => contradiction
      | ok pc =>
          obtain rfl := Except.ok.inj same
          refine ⟨read_pc_stops blank formed ends first, ?_⟩
          intro other
          cases other <;> simp [Draft.has]

end Retirement.Trace
