import Mathlib.Order.Monotone.Basic
import Retirement.Dependency

/-!
Other numbers for the same tasks. The resolver compares the numbers of tasks and never computes with
them, so that a map which increases strictly on the numbers that occur commutes with each step of the
scan: the same registers give edges, between the same tasks under their new numbers.
-/

namespace Retirement

open Instruction (ClassSet)

def Task.renumber (f : Nat → Nat) (task : Task) : Task := { task with id := f task.id }

def Edge.renumber (f : Nat → Nat) (edge : Edge) : Edge :=
  ⟨f edge.producer, f edge.consumer, edge.register⟩

def Writers.renumber (f : Nat → Nat) (writers : Writers) : Writers :=
  writers.map fun entry => (entry.1, f entry.2)

def Writers.Within (ids : Set Nat) (writers : Writers) : Prop := ∀ entry ∈ writers, entry.2 ∈ ids

variable {f : Nat → Nat} {ids : Set Nat} {writers : Writers}

theorem lookup_renumber (f : Nat → Nat) (writers : Writers) (register : String) :
    (writers.renumber f).lookup register = (writers.lookup register).map f := by
  induction writers with
  | nil => rfl
  | cons entry rest ih =>
      obtain ⟨written, writer⟩ := entry
      simp only [Writers.renumber, List.map_cons, List.lookup_cons]
      cases register == written with
      | true => rfl
      | false => exact ih

theorem lookup_within (known : writers.Within ids) {register : String} {writer : Nat}
    (found : writers.lookup register = some writer) : writer ∈ ids := by
  obtain ⟨before, after, split, _⟩ := List.lookup_eq_some_iff.mp found
  exact known (register, writer) (by simp [split])

theorem read_edge_renumber (increasing : StrictMonoOn f ids) (known : writers.Within ids)
    {consumer : Nat} (isId : consumer ∈ ids) (register : String) :
    readEdge (writers.renumber f) (f consumer) register =
      (readEdge writers consumer register).map (Edge.renumber f) := by
  rw [readEdge, readEdge, lookup_renumber]
  cases found : writers.lookup register with
  | none => rfl
  | some producer =>
      have order : f producer < f consumer ↔ producer < consumer :=
        increasing.lt_iff_lt (lookup_within known found) isId
      simp only [Option.map_some, order]
      split_ifs <;> rfl

theorem read_edges_renumber (increasing : StrictMonoOn f ids) (known : writers.Within ids)
    (tracked : ClassSet) {task : Task} (isId : task.id ∈ ids) :
    readEdges tracked (writers.renumber f) (task.renumber f) =
      (readEdges tracked writers task).map (Edge.renumber f) := by
  have reads : readEdge (writers.renumber f) (f task.id) =
      fun register => (readEdge writers task.id register).map (Edge.renumber f) :=
    funext (read_edge_renumber increasing known isId)
  rw [readEdges, readEdges, apply_ite (List.map (Edge.renumber f)), List.map_filterMap, ← reads]
  rfl

theorem record_write_renumber (f : Nat → Nat) (writers : Writers) (task : Task) :
    recordWrite (writers.renumber f) (task.renumber f) = (recordWrite writers task).renumber f := by
  rw [recordWrite, recordWrite, Task.renumber]
  cases task.destination <;> rfl

theorem record_write_within (known : writers.Within ids) {task : Task} (isId : task.id ∈ ids) :
    (recordWrite writers task).Within ids := by
  rw [recordWrite]
  cases task.destination with
  | none => exact known
  | some register => exact List.forall_mem_cons.mpr ⟨isId, known⟩

theorem resolve_from_renumber (increasing : StrictMonoOn f ids) (tracked : ClassSet)
    {tasks : List Task} (known : writers.Within ids) (areIds : ∀ task ∈ tasks, task.id ∈ ids) :
    resolveFrom tracked (writers.renumber f) (tasks.map (Task.renumber f)) =
      (resolveFrom tracked writers tasks).map (Edge.renumber f) := by
  induction tasks generalizing writers with
  | nil => rfl
  | cons task rest ih =>
      obtain ⟨isId, later⟩ := List.forall_mem_cons.mp areIds
      rw [List.map_cons, resolveFrom, resolveFrom, List.map_append,
        read_edges_renumber increasing known tracked isId, record_write_renumber,
        ih (record_write_within known isId) later]

theorem resolve_renumbered (increasing : StrictMonoOn f ids) (tracked : ClassSet)
    {tasks : List Task} (areIds : ∀ task ∈ tasks, task.id ∈ ids) :
    resolveDependencies tracked (tasks.map (Task.renumber f)) =
      (resolveDependencies tracked tasks).map (Edge.renumber f) := by
  have known : Writers.Within ids [] := fun entry impossible => nomatch impossible
  exact resolve_from_renumber increasing tracked known areIds

end Retirement
