import Retirement.Proofs.Dependency.Checking
import Retirement.Proofs.Lane.Checking
import Retirement.Timeline

/-!
What the passes make. After building, a timeline is settled by which passes are finished, in
whatever order they were taken: allocation changes nothing that the resolver reads, and nothing that
the two leave behind is read by the other. Each pass adds its own artifact, passes its own check, and
so has nothing to report.
-/

namespace Retirement

open Instruction (ClassSet)

theorem numbered_of_unlaned_eq {tasks others : List Task}
    (same : others.map Task.unlaned = tasks.map Task.unlaned) (numbered : Numbered tasks) :
    Numbered others := by
  intro position task found
  obtain ⟨original, originalFound, sameTask⟩ := original_at_of_unlaned_eq same found
  have sameId := congrArg Task.id sameTask
  exact sameId.symm.trans (numbered position original originalFound)

theorem resolve_from_unlaned (tracked : ClassSet) (writers : Writers) (tasks : List Task) :
    resolveFrom tracked writers (tasks.map Task.unlaned) = resolveFrom tracked writers tasks := by
  induction tasks generalizing writers with
  | nil => rfl
  | cons task rest ih =>
      have reads : readEdges tracked writers task.unlaned = readEdges tracked writers task := rfl
      have writes : recordWrite writers task.unlaned = recordWrite writers task := rfl
      rw [List.map_cons, resolveFrom, resolveFrom, reads, writes, ih]

theorem resolve_of_unlaned_eq (tracked : ClassSet) {tasks others : List Task}
    (same : others.map Task.unlaned = tasks.map Task.unlaned) :
    resolveDependencies tracked others = resolveDependencies tracked tasks := by
  unfold resolveDependencies
  rw [← resolve_from_unlaned tracked [] others, same, resolve_from_unlaned]

namespace Timeline

/-- What a run has made of built tasks once these passes are finished. -/
def made (built : Built) (tracked : ClassSet) (finished : List Pass) : Timeline where
  tasks := if .allocateLanes ∈ finished then (allocateLanes built.tasks).1 else built.tasks
  lanes := if .allocateLanes ∈ finished then some (allocateLanes built.tasks).2 else none
  edges :=
    if .resolveDeps ∈ finished then some (resolveDependencies tracked built.tasks) else none
  tracked := tracked
  diagnostics := built.diagnostics

theorem made_tasks_unlaned (built : Built) (tracked : ClassSet) (finished : List Pass) :
    (made built tracked finished).tasks.map Task.unlaned = built.tasks.map Task.unlaned := by
  by_cases allocated : .allocateLanes ∈ finished
  · simp only [made, if_pos allocated]
    exact allocated_unlaned built.tasks
  · simp only [made, if_neg allocated]

theorem made_congr (built : Built) (tracked : ClassSet) {first second : List Pass}
    (same : ∀ pass, pass ≠ .buildTasks → (pass ∈ first ↔ pass ∈ second)) :
    made built tracked first = made built tracked second := by
  have lanes := same .allocateLanes (by decide)
  have edges := same .resolveDeps (by decide)
  simp only [made, lanes, edges]

theorem allocation_step (rows : List Row) (options : Options) (timeline : Timeline) :
    timeline.step rows options .allocateLanes =
      ({ timeline with
          tasks := (allocateLanes timeline.tasks).1
          lanes := some (allocateLanes timeline.tasks).2 }, []) := by
  have passed : obligationDiagnostics .brokenLanes "lane" (checkLanes
      (allocateLanes timeline.tasks).1 (allocateLanes timeline.tasks).2).obligations = [] := by
    rw [allocated_lanes_pass]
    rfl
  simp only [step, passed]

theorem resolution_step (rows : List Row) (options : Options) {timeline : Timeline}
    (numbered : Numbered timeline.tasks) :
    timeline.step rows options .resolveDeps =
      ({ timeline with edges := some (resolveDependencies options.tracked timeline.tasks) },
        []) := by
  have passed : obligationDiagnostics .brokenEdges "dependency" (checkDependencies options.tracked
      timeline.tasks (resolveDependencies options.tracked timeline.tasks)).obligations = [] := by
    rw [resolved_edges_pass options.tracked numbered]
    rfl
  simp only [step, passed]

theorem later_step_makes (rows : List Row) (options : Options) {built : Built}
    (numbered : Numbered built.tasks) {finished : List Pass} {pass : Pass}
    (later : pass ≠ .buildTasks) (fresh : pass ∉ finished) :
    (made built options.tracked finished).step rows options pass =
      (made built options.tracked (finished ++ [pass]), []) := by
  have unlaned := made_tasks_unlaned built options.tracked finished
  cases pass with
  | buildTasks => exact absurd rfl later
  | allocateLanes =>
      rw [allocation_step]
      simp [made, fresh]
  | resolveDeps =>
      -- The tasks may have lanes by now, but the resolver reads the same from them.
      rw [resolution_step rows options (numbered_of_unlaned_eq unlaned numbered),
        resolve_of_unlaned_eq options.tracked unlaned]
      simp [made]

theorem run_passes_cons (options : Options) (rows : List Row) (timeline : Timeline) (pass : Pass)
    (rest : List Pass) :
    runPasses options rows timeline (pass :: rest) =
      let (next, found) := timeline.step rows options pass
      let diagnostics := timeline.diagnostics ++ found
      if hasErrors found then ([⟨pass, found⟩], .error ⟨pass, diagnostics⟩)
      else
        let (completions, result) :=
          runPasses options (rowsLeft rows pass) { next with diagnostics := diagnostics } rest
        (⟨pass, found⟩ :: completions, result) := rfl

theorem run_goes_on_after_clean_step {options : Options} {rows : List Row}
    {timeline next : Timeline} {pass : Pass}
    (clean : timeline.step rows options pass = (next, []))
    (kept : next.diagnostics = timeline.diagnostics) (rest : List Pass) :
    runPasses options rows timeline (pass :: rest) =
      (⟨pass, []⟩ :: (runPasses options (rowsLeft rows pass) next rest).1,
        (runPasses options (rowsLeft rows pass) next rest).2) := by
  have same : { next with diagnostics := timeline.diagnostics ++ [] } = next := by
    rw [List.append_nil, ← kept]
  rw [run_passes_cons, clean]
  simp only [same, hasErrors, List.any_nil]
  exact if_neg Bool.false_ne_true

/-- Passes that are taken once each, after building, all complete without a word. -/
theorem later_passes_make (options : Options) (rows : List Row) {built : Built}
    (numbered : Numbered built.tasks) {finished passes : List Pass}
    (later : .buildTasks ∉ passes) (distinct : (finished ++ passes).Nodup) :
    runPasses options rows (made built options.tracked finished) passes =
      (passes.map fun pass => ⟨pass, []⟩,
        .ok (made built options.tracked (finished ++ passes))) := by
  induction passes generalizing rows finished with
  | nil =>
      rw [List.append_nil]
      rfl
  | cons pass rest ih =>
      rw [List.mem_cons, not_or] at later
      have fresh : pass ∉ finished := by
        intro member
        rw [List.nodup_append] at distinct
        exact distinct.2.2 pass member pass List.mem_cons_self rfl
      have step := later_step_makes rows options numbered (Ne.symm later.1) fresh
      rw [List.append_cons] at distinct ⊢
      rw [run_goes_on_after_clean_step step rfl, ih (rowsLeft rows pass) later.2 distinct]
      rfl

end Timeline

end Retirement
