import Retirement.Proofs.Run

/-!
Runs with different targets over one trace. They succeed together and report the same. Targets
decide which artifacts a run has, and nothing about what the artifacts are: asking for more, in
another order or repeatedly, changes none of them.
-/

namespace Retirement

open Instruction (ClassSet)

namespace Timeline

/-- The timeline has the artifacts that the targets name, and no others. -/
structure Delivers (targets : List Pass) (timeline : Timeline) : Prop where
  lanes_iff : timeline.lanes.isSome = true ↔ .allocateLanes ∈ targets
  edges_iff : timeline.edges.isSome = true ↔ .resolveDeps ∈ targets
  laned : .allocateLanes ∈ targets → ∀ task ∈ timeline.tasks, task.lane.isSome = true
  unlaned : .allocateLanes ∉ targets → ∀ task ∈ timeline.tasks, task.lane = none

/-- The tasks are the same apart from lanes, and so are all artifacts that both timelines have. -/
structure Agrees (one other : Timeline) : Prop where
  tasks : one.tasks.map Task.unlaned = other.tasks.map Task.unlaned
  lanes : one.lanes.isSome = true → other.lanes.isSome = true →
    one.lanes = other.lanes ∧ one.tasks = other.tasks
  edges : one.edges.isSome = true → other.edges.isSome = true → one.edges = other.edges

theorem made_lanes_iff (built : Built) (tracked : ClassSet) (finished : List Pass) :
    (made built tracked finished).lanes.isSome = true ↔ .allocateLanes ∈ finished := by
  unfold made
  exact Option.isSome_ite

theorem made_edges_iff (built : Built) (tracked : ClassSet) (finished : List Pass) :
    (made built tracked finished).edges.isSome = true ↔ .resolveDeps ∈ finished := by
  unfold made
  exact Option.isSome_ite

theorem made_delivers (checkOrder : Bool) (rows : List Row) (tracked : ClassSet)
    (targets : List Pass) :
    Delivers targets (made (buildTasks checkOrder rows) tracked targets) where
  lanes_iff := made_lanes_iff _ tracked targets
  edges_iff := made_edges_iff _ tracked targets
  laned := by
    intro wanted
    simp only [made, if_pos wanted]
    exact allocated_tasks_have_lanes _
  unlaned := by
    intro unwanted
    simp only [made, if_neg unwanted]
    exact build_tasks_without_lanes checkOrder rows

theorem made_agrees (built : Built) (tracked : ClassSet) (first second : List Pass) :
    Agrees (made built tracked first) (made built tracked second) where
  tasks := by rw [made_tasks_unlaned, made_tasks_unlaned]
  lanes := by
    intro one other
    rw [made_lanes_iff] at one other
    simp only [made, if_pos one, if_pos other, and_self]
  edges := by
    intro one other
    rw [made_edges_iff] at one other
    simp only [made, if_pos one, if_pos other]

/-- No target changes what a run makes for another. Runs over one trace fail together, return the
same diagnostics, and have the same artifacts as far as both are asked for them. -/
theorem artifacts_do_not_depend_on_other_targets (rows : List Row) (options : Options)
    {first second : List Pass} (firstWanted : first ≠ []) (secondWanted : second ≠ []) :
    ((∃ one, (run rows first options).2 = .ok one) ↔
        ∃ other, (run rows second options).2 = .ok other) ∧
      returned (run rows first options).2 = returned (run rows second options).2 ∧
      ∀ one other, (run rows first options).2 = .ok one →
        (run rows second options).2 = .ok other →
          Delivers first one ∧ Delivers second other ∧ Agrees one other := by
  by_cases empty : ∃ row ∈ rows, row.endCycle ≤ row.startCycle
  · rw [run_with_empty_row firstWanted empty, run_with_empty_row secondWanted empty]
    refine ⟨Iff.rfl, rfl, ?_⟩
    intro one other impossible
    cases impossible
  · rw [run_makes_targets firstWanted empty, run_makes_targets secondWanted empty]
    refine ⟨⟨fun _ => ⟨_, rfl⟩, fun _ => ⟨_, rfl⟩⟩, rfl, ?_⟩
    intro one other oneMade otherMade
    cases oneMade
    cases otherMade
    exact ⟨made_delivers _ rows _ first, made_delivers _ rows _ second,
      made_agrees _ _ first second⟩

/-- Lanes that are asked for after edges are those that are asked for alone. -/
theorem lanes_after_edges_are_the_same :
    let rows : List Row := [⟨"flw ft0,0(a0)", .fp, 0, 3, none⟩, ⟨"flw ft1,4(a0)", .fp, 1, 3, none⟩,
      ⟨"vfmacc.vf v0,ft0,v8", .vector, 3, 7, none⟩]
    let several : List Pass := [.resolveDeps, .allocateLanes, .resolveDeps]
    ∃ one other, (run rows several ⟨.all, true⟩).2 = .ok one ∧
      (run rows [.allocateLanes] ⟨.all, true⟩).2 = .ok other ∧
      one.lanes = other.lanes ∧ one.tasks = other.tasks ∧ one.edges.isSome = true ∧
      other.edges.isSome = false := by
  intro rows several
  have wanted : several ≠ [] := by decide
  have lanesWanted : [Pass.allocateLanes] ≠ [] := by decide
  have proper : ¬ ∃ row ∈ rows, row.endCycle ≤ row.startCycle := by decide
  have both := congrArg Prod.snd (run_makes_targets wanted proper ⟨.all, true⟩)
  have alone := congrArg Prod.snd (run_makes_targets lanesWanted proper ⟨.all, true⟩)
  obtain ⟨_, _, compare⟩ :=
    artifacts_do_not_depend_on_other_targets rows ⟨.all, true⟩ wanted lanesWanted
  obtain ⟨delivers, delivered, agrees⟩ := compare _ _ both alone
  have same := agrees.lanes (delivers.lanes_iff.mpr (by decide))
    (delivered.lanes_iff.mpr (by decide))
  have noEdges : ¬ .resolveDeps ∈ [Pass.allocateLanes] := by decide
  rw [← delivered.edges_iff, Bool.not_eq_true] at noEdges
  exact ⟨_, _, both, alone, same.1, same.2, delivers.edges_iff.mpr (by decide), noEdges⟩

end Timeline

end Retirement
