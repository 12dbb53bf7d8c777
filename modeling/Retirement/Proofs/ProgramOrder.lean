import Mathlib.Data.List.Nodup
import Retirement.Proofs.Task.OrderCheck
import Retirement.Proofs.Trace.RoundTrip
import Retirement.Timeline

/-!
Program order. Rows that all have an address are put in order of their addresses, and rows of one
address stay as they were recorded; any other trace keeps its order. So the order of a file does not
matter once its addresses tell all rows apart, a second ordering finds nothing to do, and the order
check of building can only object to a trace that could not be ordered.
-/

namespace Retirement

open Trace (list_text_written list_text_written_indented load readRows read_rows_of_text write
  writeIndented)

def Addressed (rows : List Row) : Prop := ∀ row ∈ rows, row.pc.isSome = true

instance (rows : List Row) : Decidable (Addressed rows) := inferInstanceAs (Decidable (∀ _ ∈ _, _))

theorem is_sortable_iff (rows : List Row) :
    isSortable rows = true ↔ rows ≠ [] ∧ Addressed rows := by
  simp [isSortable, Addressed]

theorem not_addressed_iff (rows : List Row) : ¬ Addressed rows ↔ ∃ row ∈ rows, row.pc = none := by
  simp [Addressed]

theorem Addressed.perm {rows others : List Row} (addressed : Addressed rows)
    (same : others.Perm rows) : Addressed others :=
  fun row member => addressed row (same.mem_iff.mp member)

theorem program_order_of_unaddressed {rows : List Row} (missing : ¬ Addressed rows) :
    programOrder rows = rows := by
  apply if_neg
  rw [is_sortable_iff]
  exact fun sortable => missing sortable.2

theorem program_order_without_addresses {rows : List Row} (nowhere : ∀ row ∈ rows, row.pc = none) :
    programOrder rows = rows := by
  cases rows with
  | nil => rfl
  | cons row rest =>
      apply program_order_of_unaddressed
      rw [not_addressed_iff]
      exact ⟨row, List.mem_cons_self, nowhere row List.mem_cons_self⟩

theorem program_order_of_addressed {rows : List Row} (addressed : Addressed rows) :
    programOrder rows = rows.mergeSort Row.pcLe := by
  by_cases nothing : rows = []
  · rw [nothing, List.mergeSort_nil]
    rfl
  · exact if_pos ((is_sortable_iff rows).mpr ⟨nothing, addressed⟩)

namespace Row

theorem pc_le_iff {first second : Row} :
    first.pcLe second = true ↔
      ∀ pc, first.pc = some pc → ∃ other, second.pc = some other ∧ pc ≤ other := by
  unfold pcLe
  cases first.pc <;> cases second.pc <;> simp

theorem pc_le_trans (first second third : Row) (lower : first.pcLe second = true)
    (upper : second.pcLe third = true) : first.pcLe third = true := by
  rw [pc_le_iff] at *
  intro pc here
  obtain ⟨middle, between, lowerStep⟩ := lower pc here
  obtain ⟨other, there, upperStep⟩ := upper middle between
  exact ⟨other, there, lowerStep.trans upperStep⟩

theorem pc_le_total (first second : Row) : (first.pcLe second || second.pcLe first) = true := by
  unfold pcLe
  cases first.pc with
  | none => simp
  | some pc =>
      cases second.pc with
      | none => simp
      | some other => simpa using Nat.le_total pc other

theorem pc_le_of_same {first second : Row} (same : first.pc = second.pc) :
    first.pcLe second = true := by
  rw [pc_le_iff, same]
  exact fun pc here => ⟨pc, here, le_rfl⟩

theorem same_pc_of_le {first second : Row} (lower : first.pcLe second = true)
    (upper : second.pcLe first = true) : first.pc = second.pc := by
  rw [pc_le_iff] at *
  cases here : first.pc with
  | none =>
      cases there : second.pc with
      | none => rfl
      | some other =>
          obtain ⟨pc, impossible, _⟩ := upper other there
          rw [here] at impossible
          contradiction
  | some pc =>
      obtain ⟨other, there, lowerStep⟩ := lower pc here
      obtain ⟨again, same, upperStep⟩ := upper other there
      rw [here, Option.some.injEq] at same
      rw [there, le_antisymm lowerStep (same ▸ upperStep)]

end Row

theorem program_order_perm (rows : List Row) : (programOrder rows).Perm rows := by
  unfold programOrder
  split_ifs
  · exact List.mergeSort_perm rows Row.pcLe
  · exact List.Perm.refl rows

theorem program_order_pairwise {rows : List Row} (addressed : Addressed rows) :
    (programOrder rows).Pairwise fun first second => first.pcLe second = true := by
  rw [program_order_of_addressed addressed]
  exact List.pairwise_mergeSort Row.pc_le_trans Row.pc_le_total rows

theorem program_order_ascends {rows : List Row} (addressed : Addressed rows) :
    AddressesAscend (programOrder rows) := by
  apply (program_order_pairwise addressed).filterMap
  intro first second lower pc here other there
  obtain ⟨found, same, ordered⟩ := Row.pc_le_iff.mp lower pc here
  rw [there, Option.some.injEq] at same
  exact same ▸ ordered

/-- Rows of one address are ordered already, so the stable sort leaves them as they are. -/
theorem program_order_at_address (rows : List Row) (pc : Option Nat) :
    (programOrder rows).filter (fun row => row.pc = pc) =
      rows.filter fun row => row.pc = pc := by
  by_cases addressed : Addressed rows
  · rw [program_order_of_addressed addressed]
    have ordered : (rows.filter fun row => row.pc = pc).Pairwise
        fun first second => first.pcLe second = true := by
      apply List.pairwise_of_forall_mem_list
      intro first firstMember second secondMember
      have here := of_decide_eq_true (List.mem_filter.mp firstMember).2
      have there := of_decide_eq_true (List.mem_filter.mp secondMember).2
      exact Row.pc_le_of_same (here.trans there.symm)
    have kept := List.sublist_mergeSort Row.pc_le_trans Row.pc_le_total ordered
      List.filter_sublist
    have filtered := kept.filter fun row => decide (row.pc = pc)
    rw [List.filter_filter] at filtered
    simp only [Bool.and_self] at filtered
    have asMany := ((List.mergeSort_perm rows Row.pcLe).filter fun row =>
      decide (row.pc = pc)).length_eq
    exact (filtered.eq_of_length asMany.symm).symm
  · rw [program_order_of_unaddressed addressed]

/-- Once addresses tell rows apart, order by address leaves no choice. -/
theorem program_order_of_perm {rows others : List Row} (same : others.Perm rows)
    (addressed : Addressed rows) (distinct : (rows.map Row.pc).Nodup) :
    programOrder others = programOrder rows := by
  have samePlaces : (programOrder others).Perm (programOrder rows) :=
    (program_order_perm others).trans (same.trans (program_order_perm rows).symm)
  apply samePlaces.eq_of_pairwise _ (program_order_pairwise (addressed.perm same))
    (program_order_pairwise addressed)
  intro first second firstMember secondMember lower upper
  have firstRow := same.mem_iff.mp ((program_order_perm others).mem_iff.mp firstMember)
  have secondRow := (program_order_perm rows).mem_iff.mp secondMember
  exact List.inj_on_of_nodup_map distinct firstRow secondRow (Row.same_pc_of_le lower upper)

theorem load_of_rows {text : String} {rows : List Row} (read : readRows text.toList = .ok rows) :
    load text = .ok (programOrder rows) := by
  rw [load, read]

theorem program_order_addressed_iff (rows : List Row) :
    Addressed (programOrder rows) ↔ Addressed rows :=
  ⟨fun addressed => addressed.perm (program_order_perm rows).symm,
    fun addressed => addressed.perm (program_order_perm rows)⟩

theorem program_order_sortable (rows : List Row) :
    isSortable (programOrder rows) = isSortable rows := by
  rw [Bool.eq_iff_iff, is_sortable_iff, is_sortable_iff, program_order_addressed_iff]
  have nothing : programOrder rows = [] ↔ rows = [] := by
    constructor
    · intro empty
      have rowsPerm := program_order_perm rows
      rw [empty] at rowsPerm
      exact rowsPerm.nil_eq.symm
    · intro empty
      rw [empty]
      rfl
  rw [Ne, nothing]

theorem program_order_twice (rows : List Row) :
    programOrder (programOrder rows) = programOrder rows := by
  by_cases addressed : Addressed rows
  · rw [program_order_of_addressed ((program_order_addressed_iff rows).mpr addressed)]
    exact List.mergeSort_of_pairwise (program_order_pairwise addressed)
  · rw [program_order_of_unaddressed addressed, program_order_of_unaddressed addressed]

/-- The order in which rows are recorded leaves no trace. Two recordings of the same rows, told
apart by their addresses, are put into the same order: their texts load as the same rows, and every
run over them has the same completions and the same end. In general, rows that all have an address
are permuted so that addresses do not go down and rows of one address stay in the order they had;
any other list is kept as it is. -/
theorem recorded_order_is_forgotten (rows : List Row) :
    (∀ others : List Row, others.Perm rows → Addressed rows → (rows.map Row.pc).Nodup →
        programOrder others = programOrder rows ∧
        (∀ text otherText : String, readRows text.toList = .ok rows →
          readRows otherText.toList = .ok others →
            ∃ loaded, load text = .ok loaded ∧ load otherText = .ok loaded) ∧
        ∀ (targets : List Pass) (options : Options),
          Timeline.run (programOrder others) targets options =
            Timeline.run (programOrder rows) targets options) ∧
      (Addressed rows →
        (programOrder rows).Perm rows ∧ AddressesAscend (programOrder rows) ∧
          ∀ pc, (programOrder rows).filter (fun row => row.pc = pc) =
            rows.filter fun row => row.pc = pc) ∧
      (¬ Addressed rows → programOrder rows = rows) := by
  refine ⟨?_, ?_, program_order_of_unaddressed⟩
  · intro others same addressed distinct
    have ordered := program_order_of_perm same addressed distinct
    refine ⟨ordered, ?_, ?_⟩
    · intro text otherText read otherRead
      refine ⟨programOrder rows, load_of_rows read, ?_⟩
      rw [load_of_rows otherRead, ordered]
    · intro targets options
      rw [ordered]
  · intro addressed
    exact ⟨program_order_perm rows, program_order_ascends addressed,
      program_order_at_address rows⟩

/-- Two files with the rows of one trace load alike; rows of one address keep the order of their
file; and a row without an address keeps all rows where they are. -/
theorem recording_backwards_loads_alike :
    let early : Row := ⟨"nop", .fp, 0, 2, some 4⟩
    let late : Row := ⟨"j 8", .fp, 3, 4, some 8⟩
    let again : Row := ⟨"j 8", .fp, 1, 2, some 8⟩
    let unplaced : Row := ⟨"nop", .vector, 0, 1, none⟩
    (∃ loaded, load (write [late, early]) = .ok loaded ∧
        load (writeIndented [early, late]) = .ok loaded) ∧
      Timeline.run (programOrder [early, late]) [.resolveDeps] ⟨.all, true⟩ =
        Timeline.run (programOrder [late, early]) [.resolveDeps] ⟨.all, true⟩ ∧
      (programOrder [late, early, again]).filter (fun row => row.pc = some 8) = [late, again] ∧
      programOrder [late, unplaced, early] = [late, unplaced, early] := by
  intro early late again unplaced
  have addressed : Addressed [late, early] := by decide
  have distinct : ([late, early].map Row.pc).Nodup := by decide
  have earlyFits : early.Fits := ⟨by decide, by decide, by decide⟩
  have lateFits : late.Fits := ⟨by decide, by decide, by decide⟩
  have read : readRows (write [late, early]).toList = .ok [late, early] :=
    read_rows_of_text (by simp [earlyFits, lateFits]) (list_text_written _)
  have otherRead : readRows (writeIndented [early, late]).toList = .ok [early, late] :=
    read_rows_of_text (by simp [earlyFits, lateFits]) (list_text_written_indented _)
  obtain ⟨forget, _, _⟩ := recorded_order_is_forgotten [late, early]
  obtain ⟨_, loads, runs⟩ := forget [early, late] (List.Perm.swap late early []) addressed distinct
  obtain ⟨_, keepTies, _⟩ := recorded_order_is_forgotten [late, early, again]
  obtain ⟨_, _, keepAll⟩ := recorded_order_is_forgotten [late, unplaced, early]
  have ties := (keepTies (by decide)).2.2 (some 8)
  exact ⟨loads _ _ read otherRead, runs _ _, ties.trans (by decide), keepAll (by decide)⟩

/-- Ordering is done once and for all: a second ordering changes nothing and finds the same answer
to whether the trace can be sorted. Building then warns of the order exactly if some row has no
address and the addresses that are there do not ascend, and so never over rows that all have one. -/
theorem order_is_settled_by_loading (rows : List Row) :
    programOrder (programOrder rows) = programOrder rows ∧
      isSortable (programOrder rows) = isSortable rows ∧
      ((∃ d ∈ (buildTasks true (programOrder rows)).diagnostics, OrderWarning d) ↔
        (∃ row ∈ rows, row.pc = none) ∧ ¬ AddressesAscend rows) ∧
      (Addressed rows → ∀ checkOrder, ∀ d ∈ (buildTasks checkOrder (programOrder rows)).diagnostics,
        ¬ OrderWarning d) := by
  refine ⟨program_order_twice rows, program_order_sortable rows, ?_, ?_⟩
  · rw [build_warns_iff, ← not_addressed_iff]
    by_cases addressed : Addressed rows
    · have ascends := program_order_ascends addressed
      simp [addressed, ascends]
    · rw [program_order_of_unaddressed addressed]
      simp [addressed]
  · intro addressed checkOrder d member warning
    have warned := (build_warns_iff checkOrder (programOrder rows)).mp ⟨d, member, warning⟩
    exact warned.2 (program_order_ascends addressed)

/-- The second row has no address, so the trace cannot be ordered, and the third row goes below the
first across it. Without the second row nothing is out of order. -/
theorem gap_hides_no_descent :
    let above : Row := ⟨"addi a0,a1,1", .scalar, 0, 2, some 8⟩
    let unplaced : Row := ⟨"nop", .vector, 0, 1, none⟩
    let below : Row := ⟨"beqz a0,8", .fp, 3, 4, some 4⟩
    (∃ d ∈ (buildTasks true (programOrder [above, unplaced, below])).diagnostics,
        OrderWarning d) ∧
      ∀ d ∈ (buildTasks true (programOrder [above, below])).diagnostics, ¬ OrderWarning d := by
  intro above unplaced below
  obtain ⟨_, _, warns, _⟩ := order_is_settled_by_loading [above, unplaced, below]
  obtain ⟨_, _, _, ordered⟩ := order_is_settled_by_loading [above, below]
  exact ⟨warns.mpr ⟨⟨unplaced, by simp, rfl⟩, by decide⟩, ordered (by decide) true⟩

end Retirement
