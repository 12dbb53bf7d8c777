import Retirement.Proofs.Dependency.LatestWriter
import Retirement.Proofs.Instruction.Words

/-!
What register names look like. Whatever a row says, the registers of its task are words of its text,
and so is the register of every edge: they have no blanks, parentheses or line breaks.
-/

namespace Retirement

open Instruction (ClassSet IsWord Operands)

theorem built_registers_are_words {checkOrder : Bool} {rows : List Row} {task : Task}
    (member : task ∈ (buildTasks checkOrder rows).tasks) :
    ∀ register ∈ task.destination.toList ++ task.sources, IsWord register := by
  obtain ⟨position, row, _, rfl⟩ := row_of_built_task member
  obtain ⟨structural, reported⟩ := Operands.of_text_reported row.mnemonic.toList
  intro register listed
  exact Instruction.word_of_text_is_word (reported.registers.registers register listed)

theorem resolved_registers_are_words {checkOrder : Bool} {rows : List Row} {tracked : ClassSet}
    {edge : Edge} (member : edge ∈ resolveDependencies tracked (buildTasks checkOrder rows).tasks) :
    IsWord edge.register := by
  obtain ⟨consumer, found, _, reads, _⟩ := (mem_resolve_iff (build_tasks_numbered checkOrder rows)
    edge.producer edge.consumer edge.register).mp member
  exact built_registers_are_words (List.mem_of_getElem? found) edge.register
    (List.mem_append_right _ reads)

end Retirement
