import Mathlib.Data.List.Dedup
import Mathlib.Data.List.Induction
import Retirement.Pass

/-!
The least schedule. Every pass other than building needs exactly the building, so that a schedule
for any targets is the building and after it the other targets, in the order in which they are first
named.
-/

namespace Retirement

namespace Pass

/-- The targets other than building, each where it is first named. -/
def laterTargets (targets : List Pass) : List Pass :=
  (targets.filter fun target => target ≠ buildTasks).reverse.dedup.reverse

theorem mem_later_targets {targets : List Pass} {pass : Pass} :
    pass ∈ laterTargets targets ↔ pass ∈ targets ∧ pass ≠ buildTasks := by
  unfold laterTargets
  simp

theorem later_targets_nodup (targets : List Pass) : (laterTargets targets).Nodup := by
  unfold laterTargets
  rw [List.nodup_reverse]
  exact List.nodup_dedup _

theorem later_targets_without_building (targets : List Pass) :
    buildTasks ∉ laterTargets targets := by
  intro member
  exact (mem_later_targets.mp member).2 rfl

theorem later_targets_concat (targets : List Pass) (target : Pass) :
    laterTargets (targets ++ [target]) =
      if target ∈ buildTasks :: laterTargets targets then laterTargets targets
      else laterTargets targets ++ [target] := by
  unfold laterTargets
  rw [List.filter_append, List.reverse_append]
  by_cases building : target = buildTasks
  · simp [building]
  · have kept : [target].filter (fun target => target ≠ buildTasks) = [target] := by
      simp [building]
    rw [kept, List.reverse_singleton, List.singleton_append]
    -- Reversed, the new target stands first, and is dropped if the earlier ones have it already.
    by_cases named : target ∈ (targets.filter fun target => target ≠ buildTasks).reverse
    · rw [List.dedup_cons_of_mem named, if_pos]
      simpa [building] using named
    · rw [List.dedup_cons_of_notMem named, List.reverse_cons, if_neg]
      simpa [building] using named

theorem visit_after_building (rest : List Pass) (target : Pass) :
    visit all.length (buildTasks :: rest) target =
      if target ∈ buildTasks :: rest then buildTasks :: rest
      else buildTasks :: (rest ++ [target]) := by
  have built : visit 2 (buildTasks :: rest) buildTasks = buildTasks :: rest := by
    simp [visit]
  change visit 3 (buildTasks :: rest) target = _
  rw [visit]
  split_ifs with present
  · rfl
  · have needs : target.inputs = [buildTasks] := by
      cases target with
      | buildTasks => exact absurd List.mem_cons_self present
      | allocateLanes => rfl
      | resolveDeps => rfl
    rw [needs, List.foldl_cons, List.foldl_nil, built, List.cons_append]

theorem schedule_concat (targets : List Pass) (target : Pass) :
    schedule (targets ++ [target]) = visit all.length (schedule targets) target := by
  unfold schedule
  rw [List.foldl_append]
  rfl

/-- Building comes first and once, whatever else is asked for and whether it is itself. -/
theorem schedule_eq_building_then_targets {targets : List Pass} (wanted : targets ≠ []) :
    schedule targets = buildTasks :: laterTargets targets := by
  induction targets using List.reverseRecOn with
  | nil => exact absurd rfl wanted
  | append_singleton earlier target ih =>
      rw [schedule_concat]
      by_cases first : earlier = []
      · subst first
        cases target <;> decide
      · rw [ih first, visit_after_building, later_targets_concat]
        split_ifs <;> rfl

end Pass

end Retirement
