import Retirement.Proofs.Options
import Retirement.Proofs.RenderContract.Lossless

/-!
What a document shows of the options. It tells the diagnostics, and so it is another one with the order
check exactly if the check has something to warn of.
-/

namespace Retirement

namespace Timeline

theorem document_tells_diagnostics {one other : Timeline} (fits : one.Fits)
    (otherFits : other.Fits) {provenance : Provenance}
    (same : one.document provenance = other.document provenance) :
    one.diagnostics = other.diagnostics := by
  obtain ⟨_, _, _, read⟩ := document_reads fits provenance
  obtain ⟨_, _, _, otherRead⟩ := document_reads otherFits provenance
  rw [same, otherRead, Except.ok.injEq] at read
  have told := decode_contract one provenance
  rw [← read, decode_contract other provenance, Option.some.injEq] at told
  exact (congrArg Contract.diagnostics told).symm

theorem document_hides_order_check_iff {rows : List Row} (fits : RowsFit rows)
    (tracked : Instruction.ClassSet) (provenance : Provenance) :
    (complete rows ⟨tracked, true⟩).document provenance =
        (complete rows ⟨tracked, false⟩).document provenance ↔ AddressesAscend rows := by
  constructor
  · intro same
    have reports := document_tells_diagnostics (complete_fits fits _) (complete_fits fits _) same
    by_contra descends
    obtain ⟨d, member, warning⟩ := (build_warns_iff true rows).mpr ⟨rfl, descends⟩
    rw [complete_diagnostics, complete_diagnostics] at reports
    rw [reports] at member
    exact unchecked_order_is_silent rows d member warning.2
  · intro ascends
    unfold complete
    rw [build_of_ascending ascends]

end Timeline

end Retirement
