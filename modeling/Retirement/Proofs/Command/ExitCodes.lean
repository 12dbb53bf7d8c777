import Retirement.Command.Outcome
import Retirement.Proofs.ProgramOrder
import Retirement.Proofs.RenderContract.OrderCheck

/-!
How commands end. The exit code is settled by the trace file and by what is to be written, before any
pass but building has run; the other options do not change it. A command that fails writes nothing, and
what one that succeeds writes does not tell whether the order was checked, unless diagnostics are part
of it.
-/

namespace Retirement.Command

open Trace (LoadFault ReadFault textOfBytes)

theorem Emit.targets_wanted {emit : Emit} (runs : emit ≠ .buildInfo) : emit.targets ≠ [] := by
  cases emit with
  | buildInfo => contradiction
  | text | json | tasks | lanes | deps => exact List.cons_ne_nil _ _

/-- Only a document shows the diagnostics of a timeline. -/
theorem Emit.output_without_diagnostics {emit : Emit} (silent : emit ≠ .json)
    (provenance : Provenance) (timeline : Timeline) :
    emit.output provenance { timeline with diagnostics := [] } =
      emit.output provenance timeline := by
  cases emit with
  | json => contradiction
  | text | tasks | lanes | deps | buildInfo => rfl

/-- What is written for rows is a trace of them, in their order if one has no address. -/
theorem load_written {rows : List Row} (fits : ∀ row ∈ rows, row.Fits)
    (missing : ∃ row ∈ rows, row.pc = none) : Trace.load (Trace.write rows) = .ok rows := by
  rw [Trace.load_of_text fits (Trace.list_text_written rows),
    program_order_of_unaddressed ((not_addressed_iff rows).mpr missing)]

namespace Invocation

variable {invocation : Invocation} {rows : List Row}

def timeline (invocation : Invocation) (rows : List Row) : Timeline :=
  .made (buildTasks invocation.checkOrder rows) invocation.tracked invocation.emit.targets

theorem run_text_stops {text : String} (runs : invocation.emit ≠ .buildInfo)
    (loaded : Trace.load text = .ok rows) (empty : ∃ row ∈ rows, row.endCycle ≤ row.startCycle) :
    (invocation.runText text).exitCode = 1 ∧ (invocation.runText text).output = "" := by
  rw [runText, if_neg runs, loaded]
  simp only [runRows]
  rw [Timeline.run_with_empty_row (Emit.targets_wanted runs) empty]
  exact ⟨rfl, rfl⟩

theorem run_text_finishes {text : String} (runs : invocation.emit ≠ .buildInfo)
    (loaded : Trace.load text = .ok rows)
    (proper : ¬ ∃ row ∈ rows, row.endCycle ≤ row.startCycle) :
    (invocation.runText text).exitCode = 0 ∧
      (invocation.runText text).output =
        invocation.emit.output (.ofText text) (invocation.timeline rows) := by
  rw [runText, if_neg runs, loaded]
  simp only [runRows]
  rw [Timeline.run_makes_targets (Emit.targets_wanted runs) proper]
  exact ⟨rfl, rfl⟩

/-- The text is loaded, and the run over its rows succeeds with this timeline. -/
def Finishes (invocation : Invocation) (text : String) (timeline : Timeline) : Prop :=
  ∃ rows, Trace.load text = .ok rows ∧
    (Timeline.run rows invocation.emit.targets invocation.options).2 = .ok timeline

theorem finishes_iff (runs : invocation.emit ≠ .buildInfo) {text : String} {timeline : Timeline} :
    invocation.Finishes text timeline ↔ ∃ rows, Trace.load text = .ok rows ∧
      (¬ ∃ row ∈ rows, row.endCycle ≤ row.startCycle) ∧ timeline = invocation.timeline rows :=
  exists_congr fun _ =>
    and_congr_right fun _ => Timeline.run_eq_ok_iff (Emit.targets_wanted runs)

theorem Finishes.output {text : String} {timeline : Timeline}
    (finishes : invocation.Finishes text timeline) {emit : Emit} (emits : invocation.emit = emit)
    (runs : emit ≠ .buildInfo) :
    ∃ rows, Trace.load text = .ok rows ∧ timeline = invocation.timeline rows ∧
      (invocation.runText text).output = emit.output (.ofText text) timeline := by
  subst emits
  obtain ⟨rows, loaded, proper, rfl⟩ := (finishes_iff runs).mp finishes
  exact ⟨rows, loaded, rfl, (run_text_finishes runs loaded proper).2⟩

theorem finishes_written (runs : invocation.emit ≠ .buildInfo) (fits : ∀ row ∈ rows, row.Fits)
    (missing : ∃ row ∈ rows, row.pc = none)
    (proper : ¬ ∃ row ∈ rows, row.endCycle ≤ row.startCycle) :
    invocation.Finishes (Trace.write rows) (invocation.timeline rows) :=
  (finishes_iff runs).mpr ⟨rows, load_written fits missing, proper, rfl⟩

/-- A document is written of a run of every pass. -/
theorem document_timeline (json : invocation.emit = .json) (rows : List Row) :
    invocation.timeline rows = .complete rows invocation.options := by
  rw [timeline, json]
  apply Timeline.made_congr
  intro pass other
  cases pass with
  | buildTasks => contradiction
  | allocateLanes | resolveDeps => decide

theorem run_text_writes_document {text : String} (json : invocation.emit = .json)
    (loaded : Trace.load text = .ok rows)
    (proper : ¬ ∃ row ∈ rows, row.endCycle ≤ row.startCycle) :
    (invocation.runText text).output =
      (Timeline.complete rows ⟨invocation.tracked, invocation.checkOrder⟩).document
        (.ofText text) := by
  have runs : invocation.emit ≠ .buildInfo := by
    rw [json]
    exact Emit.noConfusion
  rw [(run_text_finishes runs loaded proper).2, document_timeline json, json]
  rfl

/-- Documents with and without the order check are the same exactly if it has nothing to warn of. -/
theorem documents_hide_order_check_iff {checked unchecked : Invocation} {text : String}
    (json : checked.emit = .json) (otherJson : unchecked.emit = .json)
    (tracked : checked.tracked = unchecked.tracked) (on : checked.checkOrder = true)
    (off : unchecked.checkOrder = false) (fits : RowsFit rows)
    (loaded : Trace.load text = .ok rows)
    (proper : ¬ ∃ row ∈ rows, row.endCycle ≤ row.startCycle) :
    (checked.runText text).output = (unchecked.runText text).output ↔ AddressesAscend rows := by
  rw [run_text_writes_document json loaded proper, run_text_writes_document otherJson loaded proper,
    tracked, on, off]
  exact Timeline.document_hides_order_check_iff fits unchecked.tracked (.ofText text)

/-- Building differs in its diagnostics if the order is checked, and nothing else looks at them. -/
theorem timeline_output {other : Invocation} (emit : other.emit = invocation.emit)
    (tracked : other.tracked = invocation.tracked)
    (order : invocation.emit = .json → other.checkOrder = invocation.checkOrder)
    (provenance : Provenance) (rows : List Row) :
    other.emit.output provenance (other.timeline rows) =
      invocation.emit.output provenance (invocation.timeline rows) := by
  by_cases json : invocation.emit = .json
  · rw [timeline, timeline, emit, tracked, order json]
  · have built := built_tasks_without_check other.checkOrder invocation.checkOrder rows
    have same : { other.timeline rows with diagnostics := [] } =
        { invocation.timeline rows with diagnostics := [] } := by
      simp only [timeline, Timeline.made, built, emit, tracked]
    rw [emit, ← Emit.output_without_diagnostics json, same, Emit.output_without_diagnostics json]

/-- How a command ends over a text: with which exit code, and what it has written. -/
inductive Ends (invocation : Invocation) (text : String) : Nat → String → Prop
  | told : invocation.emit = .buildInfo → Ends invocation text 0 (Provenance.ofText text).document
  | refused {fault : LoadFault} : invocation.emit ≠ .buildInfo → Trace.load text = .error fault →
      Ends invocation text 2 ""
  | stopped {rows : List Row} : invocation.emit ≠ .buildInfo → Trace.load text = .ok rows →
      (∃ row ∈ rows, row.endCycle ≤ row.startCycle) → Ends invocation text 1 ""
  | finished {rows : List Row} : invocation.emit ≠ .buildInfo → Trace.load text = .ok rows →
      (¬ ∃ row ∈ rows, row.endCycle ≤ row.startCycle) → Ends invocation text 0
        (invocation.emit.output (.ofText text) (invocation.timeline rows))

theorem run_text_ends (invocation : Invocation) (text : String) :
    invocation.Ends text (invocation.runText text).exitCode (invocation.runText text).output := by
  by_cases builds : invocation.emit = .buildInfo
  · rw [runText, if_pos builds]
    exact .told builds
  · cases loaded : Trace.load text with
    | error fault =>
        rw [runText, if_neg builds, loaded]
        exact .refused builds loaded
    | ok rows =>
        by_cases empty : ∃ row ∈ rows, row.endCycle ≤ row.startCycle
        · obtain ⟨code, silent⟩ := run_text_stops builds loaded empty
          rw [code, silent]
          exact .stopped builds loaded empty
        · obtain ⟨code, written⟩ := run_text_finishes builds loaded empty
          rw [code, written]
          exact .finished builds loaded empty

end Invocation

def exitCodeOfText (emit : Emit) (text : String) : Nat :=
  if emit = .buildInfo then 0
  else
    match Trace.load text with
    | .error _ => 2
    | .ok rows => if ∃ row ∈ rows, row.endCycle ≤ row.startCycle then 1 else 0

def exitCodeOfFile (emit : Emit) : Except ReadFault ByteArray → Nat
  | .error _ => 2
  | .ok bytes =>
      if valid : bytes.IsValidUTF8 then exitCodeOfText emit (String.fromUTF8 bytes valid) else 2

namespace Invocation.Ends

variable {invocation other : Invocation} {text : String} {code otherCode : Nat}
  {output otherOutput : String}

theorem code_eq (ends : invocation.Ends text code output) :
    code = exitCodeOfText invocation.emit text := by
  unfold exitCodeOfText
  cases ends with
  | told builds => rw [if_pos builds]
  | refused runs loaded => rw [if_neg runs, loaded]
  | stopped runs loaded empty =>
      rw [if_neg runs, loaded]
      exact (if_pos empty).symm
  | finished runs loaded proper =>
      rw [if_neg runs, loaded]
      exact (if_neg proper).symm

theorem silent_of_failure (ends : invocation.Ends text code output) (failed : code ≠ 0) :
    output = "" := by
  cases ends with
  | told | finished => contradiction
  | refused | stopped => rfl

theorem same_output (ends : invocation.Ends text code output)
    (otherEnds : other.Ends text otherCode otherOutput) (emit : other.emit = invocation.emit)
    (tracked : other.tracked = invocation.tracked)
    (order : invocation.emit = .json → other.checkOrder = invocation.checkOrder) :
    otherOutput = output := by
  have sameCode : otherCode = code := by rw [otherEnds.code_eq, ends.code_eq, emit]
  by_cases failed : code ≠ 0
  · rw [ends.silent_of_failure failed, otherEnds.silent_of_failure (sameCode ▸ failed)]
  · -- Both succeed, and so in the same way, because they are to write the same.
    cases ends with
    | refused | stopped => contradiction
    | told builds =>
        cases otherEnds with
        | told => rfl
        | refused runs | stopped runs | finished runs => exact absurd (emit.trans builds) runs
    | finished runs loaded proper =>
        cases otherEnds with
        | told builds => exact absurd (emit.symm.trans builds) runs
        | refused | stopped => contradiction
        | finished _ otherLoaded =>
            rw [loaded, Except.ok.injEq] at otherLoaded
            rw [← otherLoaded]
            exact timeline_output emit tracked order (.ofText text) _

end Invocation.Ends

theorem exit_code_of_no_text {bytes : ByteArray} (emit : Emit) (noText : ¬ bytes.IsValidUTF8) :
    exitCodeOfFile emit (.ok bytes) = 2 :=
  dif_neg noText

theorem exit_code_of_bytes_of_text (emit : Emit) (text : String) :
    exitCodeOfFile emit (.ok text.toByteArray) = exitCodeOfText emit text :=
  dif_pos text.isValidUTF8

theorem exit_code_of_loaded (emit : Emit) (runs : emit ≠ .buildInfo) {text : String}
    {rows : List Row} (loaded : Trace.load text = .ok rows) :
    exitCodeOfFile emit (.ok text.toByteArray) =
      if ∃ row ∈ rows, row.endCycle ≤ row.startCycle then 1 else 0 := by
  rw [exit_code_of_bytes_of_text, exitCodeOfText, if_neg runs, loaded]

/-- A file gives a text or calls for the exit code 2. -/
theorem file_gives_text_or_fault (file : Except ReadFault ByteArray) :
    (∃ fault, file >>= textOfBytes = .error fault ∧ ∀ emit, exitCodeOfFile emit file = 2) ∨
      ∃ text, file >>= textOfBytes = .ok text ∧
        ∀ emit, exitCodeOfFile emit file = exitCodeOfText emit text := by
  cases file with
  | error fault => exact Or.inl ⟨fault, rfl, fun _ => rfl⟩
  | ok bytes =>
      by_cases valid : bytes.IsValidUTF8
      · refine Or.inr ⟨String.fromUTF8 bytes valid, ?_, fun emit => dif_pos valid⟩
        change textOfBytes bytes = _
        simp only [textOfBytes, String.fromUTF8?, dif_pos valid]
      · refine Or.inl ⟨.notText, ?_, fun emit => exit_code_of_no_text emit valid⟩
        change textOfBytes bytes = _
        simp only [textOfBytes, String.fromUTF8?, dif_neg valid]

/-- A command ends as its documentation says. Its exit code is 2 if the file cannot be read or is no
text, 0 if only the provenance is to be written, 2 if the text is no trace, 1 if some row of the trace
ends no later than it starts, and otherwise 0; unless it is 0, nothing is written. So commands that
are to write the same of one file have the same exit code, whatever else is asked of them, and they
write the same if they track the same classes, except that a document may show whether the order was
checked. -/
theorem exit_code_and_output_are_settled (invocation : Invocation)
    (file : Except ReadFault ByteArray) :
    let outcome := invocation.run (file >>= textOfBytes)
    outcome.exitCode = exitCodeOfFile invocation.emit file ∧
      (outcome.exitCode ≠ 0 → outcome.output = "") ∧
      ∀ other : Invocation, other.emit = invocation.emit →
        let otherOutcome := other.run (file >>= textOfBytes)
        otherOutcome.exitCode = outcome.exitCode ∧
          (other.tracked = invocation.tracked →
            (invocation.emit = .json → other.checkOrder = invocation.checkOrder) →
            otherOutcome.output = outcome.output) := by
  rcases file_gives_text_or_fault file with ⟨fault, read, code⟩ | ⟨text, read, code⟩
  · rw [read, code]
    exact ⟨rfl, fun _ => rfl, fun other _ => ⟨rfl, fun _ _ => rfl⟩⟩
  · rw [read, code]
    have ends := invocation.run_text_ends text
    refine ⟨ends.code_eq, ends.silent_of_failure, ?_⟩
    intro other emit
    have otherEnds := other.run_text_ends text
    refine ⟨?_, ends.same_output otherEnds emit⟩
    exact otherEnds.code_eq.trans (emit ▸ ends.code_eq.symm)

theorem run_bytes_of_text (invocation : Invocation) (text : String) :
    invocation.run (.ok text.toByteArray >>= textOfBytes) = invocation.runText text := by
  have read : textOfBytes text.toByteArray = .ok text := by
    simp only [textOfBytes, String.fromUTF8?, dif_pos text.isValidUTF8]
    rfl
  change invocation.run (textOfBytes text.toByteArray) = _
  rw [read]
  rfl

/-- In the first trace an address goes down across a row without one. Edges are listed alike with the
order check and without it, and documents are not. The row of the second trace is empty, and the bytes
of the last file are no text. -/
theorem order_check_shows_in_documents_only :
    let rows : List Row := [⟨"flw ft0,0(a0)", .fp, 0, 3, some 8⟩, ⟨"nop", .scalar, 1, 2, none⟩,
      ⟨"add a1,ft0,ft0", .scalar, 3, 4, some 4⟩]
    let stopping : List Row := [⟨"nop", .scalar, 3, 3, none⟩]
    let contents (rows : List Row) := .ok (Trace.write rows).toByteArray >>= textOfBytes
    let command (emit : Emit) (checkOrder : Bool) : Invocation :=
      ⟨"trace.json", emit, .all, checkOrder, !checkOrder⟩
    ((command .deps true).run (contents rows)).exitCode = 0 ∧
      ((command .deps false).run (contents rows)).output =
        ((command .deps true).run (contents rows)).output ∧
      ((command .json false).run (contents rows)).exitCode =
        ((command .json true).run (contents rows)).exitCode ∧
      ((command .json false).run (contents rows)).output ≠
        ((command .json true).run (contents rows)).output ∧
      ((command .text true).run (contents stopping)).exitCode = 1 ∧
      ((command .text true).run (contents stopping)).output = "" ∧
      ((command .tasks true).run (.ok ⟨#[0xc3]⟩ >>= textOfBytes)).exitCode = 2 := by
  intro rows stopping contents command
  have fits : RowsFit rows :=
    { each := by decide
      texts := by decide
      count := by decide }
  have stoppingFits : ∀ row ∈ stopping, row.Fits := by decide
  have proper : ¬ ∃ row ∈ rows, row.endCycle ≤ row.startCycle := by decide
  have empty : ∃ row ∈ stopping, row.endCycle ≤ row.startCycle := by decide
  have loaded := load_written fits.each (by decide)
  have stoppingLoaded := load_written stoppingFits (by decide)
  obtain ⟨code, _, others⟩ :=
    exit_code_and_output_are_settled (command .deps true) (.ok (Trace.write rows).toByteArray)
  obtain ⟨_, _, documents⟩ :=
    exit_code_and_output_are_settled (command .json true) (.ok (Trace.write rows).toByteArray)
  obtain ⟨stops, silent, _⟩ :=
    exit_code_and_output_are_settled (command .text true) (.ok (Trace.write stopping).toByteArray)
  obtain ⟨unread, _, _⟩ :=
    exit_code_and_output_are_settled (command .tasks true) (.ok ⟨#[0xc3]⟩)
  have listed := others (command .deps false) rfl
  have told := documents (command .json false) rfl
  have finishes := exit_code_of_loaded .deps Emit.noConfusion loaded
  have differ : ((command .json false).run (contents rows)).output ≠
      ((command .json true).run (contents rows)).output := by
    have ascends := @Invocation.documents_hide_order_check_iff rows (command .json true)
      (command .json false) (Trace.write rows) rfl rfl rfl rfl rfl fits loaded proper
    simp only [contents, run_bytes_of_text]
    intro same
    exact absurd (ascends.mp same.symm) (by decide)
  have stopsAtOne := exit_code_of_loaded .text Emit.noConfusion stoppingLoaded
  rw [if_neg proper] at finishes
  rw [if_pos empty] at stopsAtOne
  have stopped := stops.trans stopsAtOne
  refine ⟨code.trans finishes, listed.2 rfl nofun, told.1, differ, stopped, ?_, ?_⟩
  · apply silent
    rw [stopped]
    exact Nat.one_ne_zero
  · exact unread.trans (exit_code_of_no_text .tasks (by decide))

end Retirement.Command
