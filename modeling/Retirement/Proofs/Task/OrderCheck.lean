import Mathlib.Data.List.Chain
import Retirement.Proofs.Task.Building

/-!
The order check of building. Rows without an address are passed over: the check compares each
address with the last one seen before it. It warns somewhere exactly if the addresses that are
present do not ascend, and that no longer mentions neighbours.
-/

namespace Retirement

open Instruction (Operands)

def AddressesAscend (rows : List Row) : Prop := (rows.filterMap Row.pc).Pairwise (· ≤ ·)

instance (rows : List Row) : Decidable (AddressesAscend rows) :=
  inferInstanceAs (Decidable (List.Pairwise _ _))

def OrderWarning (d : Diagnostic) : Prop := d.severity = .warning ∧ d.code = some .rowOrder

theorem order_warning_iff (index : Nat) (row : Row) (finding : Finding) :
    OrderWarning (finding.diagnostic index row) ↔
      ∃ pc previous, finding = .outOfOrder pc previous := by
  cases finding <;> simp [OrderWarning, Finding.diagnostic]

theorem order_finding_eq_iff {lastPc pc : Option Nat} {finding : Finding} :
    orderFinding lastPc pc = some finding ↔
      ∃ previous current, lastPc = some previous ∧ pc = some current ∧ current < previous ∧
        finding = .outOfOrder current previous := by
  cases lastPc <;> cases pc <;> simp [orderFinding, eq_comm]

theorem out_of_order_found_iff (checkOrder : Bool) (lastPc : Option Nat) (row : Row)
    (operands : Operands) (current previous : Nat) :
    .outOfOrder current previous ∈ rowFindings checkOrder lastPc row operands ↔
      checkOrder = true ∧ lastPc = some previous ∧ row.pc = some current ∧ current < previous := by
  have notEmpty : Finding.outOfOrder current previous ∉
      if row.interval.IsEmpty then [Finding.emptyInterval] else [] := by
    split_ifs <;> simp
  have notOperand : Finding.outOfOrder current previous ∉ operands.issues.map .operand := by
    simp
  rw [rowFindings, List.mem_append, List.mem_append, or_iff_right notEmpty,
    or_iff_left notOperand]
  cases checkOrder with
  | false => simp
  | true =>
      rw [if_pos rfl, Option.mem_toList, order_finding_eq_iff]
      simp

theorem row_warns_iff (checkOrder : Bool) (index : Nat) (lastPc : Option Nat) (row : Row)
    (operands : Operands) :
    (∃ d ∈ (rowFindings checkOrder lastPc row operands).map (Finding.diagnostic index row),
        OrderWarning d) ↔
      checkOrder = true ∧ ∃ previous current, lastPc = some previous ∧ row.pc = some current ∧
        current < previous := by
  constructor
  · intro warned
    obtain ⟨d, member, warning⟩ := warned
    obtain ⟨finding, found, rfl⟩ := List.mem_map.mp member
    obtain ⟨current, previous, rfl⟩ := (order_warning_iff index row finding).mp warning
    have facts := (out_of_order_found_iff _ _ _ _ current previous).mp found
    exact ⟨facts.1, previous, current, facts.2⟩
  · intro lower
    obtain ⟨checked, previous, current, facts⟩ := lower
    have found := (out_of_order_found_iff checkOrder lastPc row operands current previous).mpr
      ⟨checked, facts⟩
    exact ⟨_, List.mem_map_of_mem found,
      (order_warning_iff index row _).mpr ⟨current, previous, rfl⟩⟩

/-- One row either goes down from the last address, or hands on the address that later rows are
compared with. -/
theorem chain_from_row (lastPc pc : Option Nat) (later : List Nat) :
    (lastPc.toList ++ (pc.toList ++ later)).IsChain (· ≤ ·) ↔
      (¬ ∃ previous current, lastPc = some previous ∧ pc = some current ∧ current < previous) ∧
        ((pc <|> lastPc).toList ++ later).IsChain (· ≤ ·) := by
  cases lastPc <;> cases pc <;> simp [List.isChain_cons_cons]

theorem build_from_warns_iff (checkOrder : Bool) (index : Nat) (lastPc : Option Nat)
    (rows : List Row) :
    (∃ d ∈ (buildFrom checkOrder index lastPc rows).diagnostics, OrderWarning d) ↔
      checkOrder = true ∧ ¬ (lastPc.toList ++ rows.filterMap Row.pc).IsChain (· ≤ ·) := by
  induction rows generalizing index lastPc with
  | nil => cases lastPc <;> simp [buildFrom]
  | cons row rest ih =>
      have addresses : (row :: rest).filterMap Row.pc =
          row.pc.toList ++ rest.filterMap Row.pc := by
        cases address : row.pc <;> simp [address]
      have step := row_warns_iff checkOrder index lastPc row
        (Operands.ofText row.mnemonic.toList)
      rw [addresses, chain_from_row, buildFrom]
      simp only [List.mem_append, or_and_right, exists_or, step, ih]
      rw [← and_or_left, not_and_or, not_not]

theorem build_warns_iff (checkOrder : Bool) (rows : List Row) :
    (∃ d ∈ (buildTasks checkOrder rows).diagnostics, OrderWarning d) ↔
      checkOrder = true ∧ ¬ AddressesAscend rows := by
  rw [buildTasks, build_from_warns_iff, AddressesAscend, Option.toList_none, List.nil_append,
    List.isChain_iff_pairwise]

end Retirement
