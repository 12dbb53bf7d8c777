import Retirement.Proofs.Artifacts
import Retirement.Proofs.Schedule

/-!
How runs end. Building comes first, and only rows with an empty interval can make it fail. A run
that gets past building succeeds, has nothing more to report, and has made exactly what its targets
name.
-/

namespace Retirement

namespace Timeline

def returned : Except Failure Timeline → List Diagnostic
  | .ok timeline => timeline.diagnostics
  | .error failure => failure.diagnostics

theorem run_without_targets (rows : List Row) (options : Options) :
    run rows [] options = ([], .ok (start options.tracked)) := rfl

/-- Building is the first pass of a run with targets, and no later pass builds again. -/
theorem run_begins_with_building (rows : List Row) {targets : List Pass} (wanted : targets ≠ [])
    (options : Options) :
    let built := buildTasks options.checkOrder rows
    run rows targets options =
      if hasErrors built.diagnostics then
        ([⟨.buildTasks, built.diagnostics⟩], .error ⟨.buildTasks, built.diagnostics⟩)
      else
        let (completions, result) :=
          runPasses options [] (made built options.tracked []) (Pass.laterTargets targets)
        (⟨.buildTasks, built.diagnostics⟩ :: completions, result) := by
  intro built
  rw [run, Pass.schedule_eq_building_then_targets wanted, run_passes_cons]
  rfl

theorem run_with_empty_row {rows : List Row} {targets : List Pass} (wanted : targets ≠ [])
    (empty : ∃ row ∈ rows, row.endCycle ≤ row.startCycle) (options : Options) :
    run rows targets options =
      ([⟨.buildTasks, (buildTasks options.checkOrder rows).diagnostics⟩],
        .error ⟨.buildTasks, (buildTasks options.checkOrder rows).diagnostics⟩) := by
  have failed : hasErrors (buildTasks options.checkOrder rows).diagnostics = true :=
    (build_from_has_errors_iff options.checkOrder 0 none rows).mpr empty
  rw [run_begins_with_building rows wanted options]
  exact if_pos failed

/-- Without empty rows the run makes what its targets name, and only building has something to
report. -/
theorem run_makes_targets {rows : List Row} {targets : List Pass} (wanted : targets ≠ [])
    (proper : ¬ ∃ row ∈ rows, row.endCycle ≤ row.startCycle) (options : Options) :
    let built := buildTasks options.checkOrder rows
    run rows targets options =
      (⟨.buildTasks, built.diagnostics⟩ ::
          (Pass.laterTargets targets).map fun pass => ⟨pass, []⟩,
        .ok (made built options.tracked targets)) := by
  intro built
  have clean : ¬ hasErrors built.diagnostics = true :=
    fun failed => proper ((build_from_has_errors_iff options.checkOrder 0 none rows).mp failed)
  have numbered : Numbered built.tasks := build_tasks_numbered options.checkOrder rows
  have distinct : ([] ++ Pass.laterTargets targets).Nodup := Pass.later_targets_nodup targets
  have later := later_passes_make options [] numbered
    (Pass.later_targets_without_building targets) distinct
  have named : made built options.tracked ([] ++ Pass.laterTargets targets) =
      made built options.tracked targets := by
    apply made_congr
    intro pass other
    simp [Pass.mem_later_targets, other]
  rw [named] at later
  rw [run_begins_with_building rows wanted options, if_neg clean, later]

theorem run_without_empty_rows {rows : List Row} {targets : List Pass} (wanted : targets ≠ [])
    (proper : ¬ ∃ row ∈ rows, row.endCycle ≤ row.startCycle) (options : Options) :
    ∃ (rest : List Pass) (final : Timeline), run rows targets options =
        (⟨.buildTasks, (buildTasks options.checkOrder rows).diagnostics⟩ ::
          rest.map fun pass => ⟨pass, []⟩, .ok final) ∧
      final.diagnostics = (buildTasks options.checkOrder rows).diagnostics :=
  ⟨Pass.laterTargets targets, _, run_makes_targets wanted proper options, rfl⟩

/-- What every pass together makes of rows of which none is empty. -/
def complete (rows : List Row) (options : Options) : Timeline :=
  made (buildTasks options.checkOrder rows) options.tracked Pass.all

@[simp] theorem complete_tasks (rows : List Row) (options : Options) :
    (complete rows options).tasks =
      (allocateLanes (buildTasks options.checkOrder rows).tasks).1 := rfl

@[simp] theorem complete_lanes (rows : List Row) (options : Options) :
    (complete rows options).lanes =
      some (allocateLanes (buildTasks options.checkOrder rows).tasks).2 := rfl

@[simp] theorem complete_edges (rows : List Row) (options : Options) :
    (complete rows options).edges =
      some (resolveDependencies options.tracked
        (buildTasks options.checkOrder rows).tasks) := rfl

@[simp] theorem complete_diagnostics (rows : List Row) (options : Options) :
    (complete rows options).diagnostics = (buildTasks options.checkOrder rows).diagnostics := rfl

theorem run_eq_ok_iff {rows : List Row} {targets : List Pass} (wanted : targets ≠ [])
    {options : Options} {timeline : Timeline} :
    (run rows targets options).2 = .ok timeline ↔
      (¬ ∃ row ∈ rows, row.endCycle ≤ row.startCycle) ∧
        timeline = made (buildTasks options.checkOrder rows) options.tracked targets := by
  by_cases empty : ∃ row ∈ rows, row.endCycle ≤ row.startCycle
  · rw [run_with_empty_row wanted empty]
    constructor
    · intro impossible
      cases impossible
    · intro proper
      exact absurd empty proper.1
  · rw [run_makes_targets wanted empty]
    constructor
    · intro ended
      exact ⟨empty, (Except.ok.inj ended).symm⟩
    · intro proper
      exact congrArg Except.ok proper.2.symm

theorem run_all_eq_ok_iff {rows : List Row} {options : Options} {timeline : Timeline} :
    runAll rows options = .ok timeline ↔
      (¬ ∃ row ∈ rows, row.endCycle ≤ row.startCycle) ∧ timeline = complete rows options :=
  run_eq_ok_iff (List.cons_ne_nil _ _)

theorem built_warnings {rows : List Row}
    (proper : ¬ ∃ row ∈ rows, row.endCycle ≤ row.startCycle) (checkOrder : Bool) :
    ∀ d ∈ (buildTasks checkOrder rows).diagnostics, d.severity = .warning := by
  intro d member
  cases severity : d.severity with
  | warning => rfl
  | error =>
      have failed : hasErrors (buildTasks checkOrder rows).diagnostics = true :=
        List.any_eq_true.mpr ⟨d, member, decide_eq_true severity⟩
      exact absurd ((build_from_has_errors_iff checkOrder 0 none rows).mp failed) proper

theorem built_diagnostic_is_no_failed_check (rows : List Row) (checkOrder : Bool) :
    ∀ d ∈ (buildTasks checkOrder rows).diagnostics,
      d.code ≠ some .brokenLanes ∧ d.code ≠ some .brokenEdges := by
  intro d member
  obtain ⟨_, row, _, _, finding, _, rfl⟩ := build_from_diagnostic _ _ _ _ member
  exact finding_code _ row finding

/-- A run fails exactly if it has a target and some row ends no later than it starts. It then fails
in building, before any other pass, with what building reports; a failed check of lanes or edges is
never among it. A run that succeeds reports warnings only, and every run returns what its passes
reported, in order. -/
theorem run_fails_iff_empty_row (rows : List Row) (targets : List Pass) (options : Options) :
    ((∃ failure, (run rows targets options).2 = .error failure) ↔
        targets ≠ [] ∧ ∃ row ∈ rows, row.endCycle ≤ row.startCycle) ∧
      (∀ failure, (run rows targets options).2 = .error failure →
        failure = ⟨.buildTasks, (buildTasks options.checkOrder rows).diagnostics⟩ ∧
          (run rows targets options).1 = [⟨.buildTasks, failure.diagnostics⟩]) ∧
      (∀ timeline, (run rows targets options).2 = .ok timeline →
        ∀ d ∈ timeline.diagnostics, d.severity = .warning) ∧
      returned (run rows targets options).2 =
        (run rows targets options).1.flatMap Completion.diagnostics ∧
      ∀ d ∈ returned (run rows targets options).2,
        d.code ≠ some .brokenLanes ∧ d.code ≠ some .brokenEdges := by
  have codes := built_diagnostic_is_no_failed_check rows options.checkOrder
  by_cases unwanted : targets = []
  · rw [unwanted, run_without_targets]
    refine ⟨by simp, ?_, ?_, rfl, by simp [returned, start]⟩
    · intro failure impossible
      cases impossible
    · intro timeline success
      cases success
      simp [start]
  by_cases empty : ∃ row ∈ rows, row.endCycle ≤ row.startCycle
  · rw [run_with_empty_row unwanted empty]
    refine ⟨⟨fun _ => ⟨unwanted, empty⟩, fun _ => ⟨_, rfl⟩⟩, ?_, ?_, by simp [returned], codes⟩
    · intro failure ended
      cases ended
      exact ⟨rfl, rfl⟩
    · intro timeline impossible
      cases impossible
  · obtain ⟨rest, final, ended, same⟩ := run_without_empty_rows unwanted empty options
    rw [ended]
    refine ⟨⟨?_, fun found => absurd found.2 empty⟩, ?_, ?_, ?_, ?_⟩
    · intro failing
      obtain ⟨failure, impossible⟩ := failing
      cases impossible
    · intro failure impossible
      cases impossible
    · intro timeline success
      cases success
      rw [same]
      exact built_warnings empty options.checkOrder
    · simp [returned, same, List.flatMap_map]
    · rw [returned, same]
      exact codes

/-- Asking for edges before tasks does not change where an empty row stops a run. -/
theorem empty_row_stops_at_building :
    ∃ failure, (run [⟨"addi a0,a1,1", .scalar, 0, 1, none⟩, ⟨"beqz", .fp, 7, 4, none⟩]
        [.resolveDeps, .buildTasks, .resolveDeps] ⟨.all, true⟩).2 = .error failure ∧
      failure.pass = .buildTasks := by
  obtain ⟨fails, shape, _⟩ := run_fails_iff_empty_row
    [⟨"addi a0,a1,1", .scalar, 0, 1, none⟩, ⟨"beqz", .fp, 7, 4, none⟩]
    [.resolveDeps, .buildTasks, .resolveDeps] ⟨.all, true⟩
  obtain ⟨failure, ended⟩ := fails.mpr
    ⟨by decide, ⟨"beqz", .fp, 7, 4, none⟩, by simp, by decide⟩
  exact ⟨failure, ended, by rw [(shape failure ended).1]⟩

end Timeline

end Retirement
