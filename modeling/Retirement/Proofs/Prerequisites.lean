import Mathlib.Logic.Relation
import Retirement.Proofs.Schedule

/-!
What a schedule is, without the walk that finds it. Taking a pass adds what it needs and nothing else,
each once and behind its own inputs. This holds of every order that such steps build up, so that a
schedule has exactly the passes that some target needs and is its own schedule.
-/

namespace Retirement

namespace Pass

def Needs : Pass → Pass → Prop := Relation.ReflTransGen fun pass input => input ∈ pass.inputs

theorem needs_itself (pass : Pass) : Needs pass pass := Relation.ReflTransGen.refl

theorem needs_iff {pass needed : Pass} :
    Needs pass needed ↔ pass = needed ∨ ∃ input ∈ pass.inputs, Needs input needed :=
  Relation.ReflTransGen.cases_head_iff

/-- The length of the longest chain of inputs below a pass. -/
def rank : Pass → Nat
  | buildTasks => 0
  | allocateLanes => 1
  | resolveDeps => 1

theorem rank_lt (pass : Pass) : rank pass < all.length := by cases pass <;> decide

theorem input_rank_lt {pass input : Pass} (isInput : input ∈ pass.inputs) :
    rank input < rank pass := by
  cases pass with
  | buildTasks => contradiction
  | allocateLanes =>
      rw [List.mem_singleton.mp isInput]
      exact Nat.zero_lt_one
  | resolveDeps =>
      rw [List.mem_singleton.mp isInput]
      exact Nat.zero_lt_one

theorem needed_rank_le {pass needed : Pass} (needs : Needs pass needed) :
    rank needed ≤ rank pass := by
  induction needs with
  | refl => exact Nat.le_refl _
  | tail _ isInput below => exact Nat.le_trans (Nat.le_of_lt (input_rank_lt isInput)) below

/-- An order of passes in which each stands once and behind its inputs. -/
inductive Orderly : List Pass → Prop
  | nil : Orderly []
  | concat {order : List Pass} {pass : Pass} (orderly : Orderly order) (new : pass ∉ order)
      (ready : ∀ input ∈ pass.inputs, input ∈ order) : Orderly (order ++ [pass])

namespace Orderly

variable {order : List Pass} {pass input : Pass}

theorem nodup (orderly : Orderly order) : order.Nodup := by
  induction orderly with
  | nil => exact List.nodup_nil
  | concat _ new _ once =>
      rw [← List.concat_eq_append]
      exact once.concat new

theorem input_first (orderly : Orderly order) (member : pass ∈ order)
    (isInput : input ∈ pass.inputs) : order.idxOf input < order.idxOf pass := by
  induction orderly with
  | nil => contradiction
  | @concat earlier last _ new ready ih =>
      rw [List.idxOf_append, List.idxOf_append]
      rcases List.mem_append.mp member with before | isLast
      · have first := ih before
        have inputBefore : input ∈ earlier :=
          List.idxOf_lt_length_iff.mp (Nat.lt_trans first (List.idxOf_lt_length_iff.mpr before))
        rw [if_pos inputBefore, if_pos before]
        exact first
      · obtain rfl := List.mem_singleton.mp isLast
        have inputBefore := ready input isInput
        rw [if_pos inputBefore, if_neg new]
        exact Nat.lt_add_left _ (List.idxOf_lt_length_iff.mpr inputBefore)

theorem input_mem (orderly : Orderly order) (member : pass ∈ order)
    (isInput : input ∈ pass.inputs) : input ∈ order :=
  List.idxOf_lt_length_iff.mp
    (Nat.lt_trans (orderly.input_first member isInput) (List.idxOf_lt_length_iff.mpr member))

theorem needed_mem (orderly : Orderly order) (member : pass ∈ order) {needed : Pass}
    (needs : Needs pass needed) : needed ∈ order := by
  induction needs with
  | refl => exact member
  | tail _ isInput inside => exact orderly.input_mem inside isInput

end Orderly

structure Grows (order wanted result : List Pass) : Prop where
  orderly : Orderly result
  begins : order <+: result
  mem_iff : ∀ pass, pass ∈ result ↔ pass ∈ order ∨ ∃ target ∈ wanted, Needs target pass

theorem Grows.refl {order : List Pass} (orderly : Orderly order) : Grows order [] order where
  orderly := orderly
  begins := List.prefix_rfl
  mem_iff := by simp

theorem Grows.trans {order first middle second result : List Pass}
    (earlier : Grows order first middle) (later : Grows middle second result) :
    Grows order (first ++ second) result where
  orderly := later.orderly
  begins := earlier.begins.trans later.begins
  mem_iff := by
    intro pass
    simp only [later.mem_iff, earlier.mem_iff, List.mem_append, or_and_right, exists_or, or_assoc]

/-- Passes that are taken one after the other. -/
theorem grows_by_all {take : List Pass → Pass → List Pass} {wanted : List Pass}
    (each : ∀ target ∈ wanted, ∀ order, Orderly order → Grows order [target] (take order target))
    {order : List Pass} (orderly : Orderly order) :
    Grows order wanted (wanted.foldl take order) := by
  induction wanted generalizing order with
  | nil => exact Grows.refl orderly
  | cons target rest ih =>
      have first := each target List.mem_cons_self order orderly
      apply first.trans
      apply ih _ first.orderly
      exact fun other member => each other (List.mem_cons_of_mem target member)

/-- One pass. The induction is on the depth that is left, which is more than the rank of the pass, so
that the walk below each of its inputs has depth enough too. -/
theorem visit_grows {depth : Nat} {pass : Pass} (shallow : rank pass < depth) {order : List Pass}
    (orderly : Orderly order) : Grows order [pass] (visit depth order pass) := by
  induction depth generalizing pass order with
  | zero => contradiction
  | succ depth ih =>
      rw [visit]
      split_ifs with present
      · have closed : ∀ needed, Needs pass needed → needed ∈ order :=
          fun needed => orderly.needed_mem present
        refine ⟨orderly, List.prefix_rfl, ?_⟩
        intro needed
        simp only [List.mem_singleton, exists_eq_left]
        exact (or_iff_left_of_imp (closed needed)).symm
      · have inputs : Grows order pass.inputs (pass.inputs.foldl (visit depth) order) := by
          apply grows_by_all _ orderly
          intro input isInput order orderly
          apply ih _ orderly
          exact Nat.lt_of_lt_of_le (input_rank_lt isInput) (Nat.le_of_lt_succ shallow)
        have new : pass ∉ pass.inputs.foldl (visit depth) order := by
          rw [inputs.mem_iff]
          rintro (before | ⟨input, isInput, needs⟩)
          · exact present before
          · exact Nat.not_le_of_lt (input_rank_lt isInput) (needed_rank_le needs)
        have ready : ∀ input ∈ pass.inputs, input ∈ pass.inputs.foldl (visit depth) order :=
          fun input isInput => (inputs.mem_iff input).mpr (Or.inr ⟨input, isInput, needs_itself input⟩)
        apply Grows.mk
        · exact inputs.orderly.concat new ready
        · exact inputs.begins.trans (List.prefix_append _ _)
        · intro needed
          simp only [List.mem_append, List.mem_singleton, exists_eq_left, inputs.mem_iff, or_assoc]
          rw [needs_iff, or_comm (a := pass = needed), eq_comm]

theorem visits_grow (targets : List Pass) {order : List Pass} (orderly : Orderly order) :
    Grows order targets (targets.foldl (visit all.length) order) := by
  apply grows_by_all _ orderly
  intro target _ order orderly
  exact visit_grows (rank_lt target) orderly

theorem schedule_grows (targets : List Pass) : Grows [] targets (schedule targets) :=
  visits_grow targets Orderly.nil

theorem mem_schedule {targets : List Pass} {pass : Pass} :
    pass ∈ schedule targets ↔ ∃ target ∈ targets, Needs target pass := by
  rw [(schedule_grows targets).mem_iff]
  simp

theorem schedule_begins (earlier later : List Pass) :
    schedule earlier <+: schedule (earlier ++ later) := by
  have grows := visits_grow later (schedule_grows earlier).orderly
  rw [schedule, schedule, List.foldl_append]
  exact grows.begins

theorem visit_present {depth : Nat} {order : List Pass} {pass : Pass} (present : pass ∈ order) :
    visit depth order pass = order := by
  cases depth with
  | zero => rfl
  | succ depth => exact if_pos present

theorem visits_present {depth : Nat} {order targets : List Pass}
    (present : ∀ target ∈ targets, target ∈ order) :
    targets.foldl (visit depth) order = order := by
  induction targets with
  | nil => rfl
  | cons target rest ih =>
      rw [List.foldl_cons, visit_present (present target List.mem_cons_self)]
      exact ih fun other member => present other (List.mem_cons_of_mem target member)

/-- A pass whose inputs are all there is put behind them. -/
theorem visit_ready {depth : Nat} {order : List Pass} {pass : Pass} (new : pass ∉ order)
    (ready : ∀ input ∈ pass.inputs, input ∈ order) :
    visit (depth + 1) order pass = order ++ [pass] := by
  rw [visit, if_neg new, visits_present ready]

theorem Orderly.schedule_eq {order : List Pass} (orderly : Orderly order) :
    schedule order = order := by
  induction orderly with
  | nil => rfl
  | concat _ new ready same =>
      rw [schedule_concat, same]
      exact visit_ready new ready

/-- Only building is an input. -/
theorem input_eq_building {pass input : Pass} (isInput : input ∈ pass.inputs) :
    input = buildTasks := by
  cases pass with
  | buildTasks => contradiction
  | allocateLanes => exact List.mem_singleton.mp isInput
  | resolveDeps => exact List.mem_singleton.mp isInput

theorem needs_building (pass : Pass) : Needs pass buildTasks := by
  cases pass with
  | buildTasks => exact needs_itself buildTasks
  | allocateLanes => exact Relation.ReflTransGen.single List.mem_cons_self
  | resolveDeps => exact Relation.ReflTransGen.single List.mem_cons_self

theorem needs_iff_same_or_building {pass needed : Pass} :
    Needs pass needed ↔ pass = needed ∨ needed = buildTasks := by
  constructor
  · intro needs
    rcases (Relation.ReflTransGen.cases_tail_iff _ _ _).mp needs with same | ⟨_, _, isInput⟩
    · exact Or.inl same.symm
    · exact Or.inr (input_eq_building isInput)
  · rintro (rfl | rfl)
    · exact needs_itself pass
    · exact needs_building pass

instance (pass needed : Pass) : Decidable (Needs pass needed) :=
  decidable_of_iff _ needs_iff_same_or_building.symm

/-- What some pass does without is needed by itself alone. -/
theorem mem_schedule_of_not_needed {targets : List Pass} {pass other : Pass}
    (without : ¬ Needs other pass) : pass ∈ schedule targets ↔ pass ∈ targets := by
  rw [mem_schedule]
  constructor
  · rintro ⟨target, isTarget, needs⟩
    rcases needs_iff_same_or_building.mp needs with rfl | rfl
    · exact isTarget
    · exact absurd (needs_building other) without
  · exact fun isTarget => ⟨pass, isTarget, needs_itself pass⟩

/-- Of two targets that do without each other the one that is named first comes first: when it has
just been taken the other has not. -/
theorem schedule_keeps_naming_order {targets : List Pass} {first second : Pass}
    (apart : ¬ Needs first second) (without : ¬ Needs second first) (named : first ∈ targets)
    (before : targets.idxOf first < targets.idxOf second) :
    (schedule targets).idxOf first < (schedule targets).idxOf second := by
  obtain ⟨earlier, later, rfl, new⟩ := List.eq_append_cons_of_mem named
  have split : earlier ++ first :: later = earlier ++ [first] ++ later := by
    rw [List.append_assoc, List.singleton_append]
  have taken : first ∈ schedule (earlier ++ [first]) := by
    rw [mem_schedule_of_not_needed without]
    exact List.mem_append_right earlier List.mem_cons_self
  have waiting : second ∉ schedule (earlier ++ [first]) := by
    rw [mem_schedule_of_not_needed apart]
    intro member
    have together : second ≠ first := by
      rintro rfl
      exact Nat.lt_irrefl _ before
    have named : second ∈ earlier :=
      (List.mem_append.mp member).resolve_right (mt List.mem_singleton.mp together)
    rw [List.idxOf_append_of_notMem new, List.idxOf_append_of_mem named] at before
    have inside := List.idxOf_lt_length_iff.mpr named
    omega
  obtain ⟨rest, whole⟩ := schedule_begins (earlier ++ [first]) later
  rw [split, ← whole, List.idxOf_append_of_mem taken, List.idxOf_append_of_notMem waiting]
  exact Nat.lt_add_right _ (List.idxOf_lt_length_iff.mpr taken)

/-- The schedule of any targets has each pass at most once, exactly the passes that some target needs,
and each of them behind its inputs. Targets that do without each other stand in the order in which
they are first named. A schedule is its own schedule. -/
theorem schedule_is_least_order (targets : List Pass) :
    (schedule targets).Nodup ∧
      (∀ pass, pass ∈ schedule targets ↔ ∃ target ∈ targets, Needs target pass) ∧
      (∀ pass ∈ schedule targets, ∀ input ∈ pass.inputs,
        (schedule targets).idxOf input < (schedule targets).idxOf pass) ∧
      (∀ first ∈ targets, ∀ second ∈ targets, ¬ Needs first second → ¬ Needs second first →
        ((schedule targets).idxOf first < (schedule targets).idxOf second ↔
          targets.idxOf first < targets.idxOf second)) ∧
      schedule (schedule targets) = schedule targets := by
  have orderly := (schedule_grows targets).orderly
  refine ⟨orderly.nodup, fun _ => mem_schedule, ?_, ?_, orderly.schedule_eq⟩
  · intro pass member input isInput
    exact orderly.input_first member isInput
  · intro first isFirst second isSecond apart without
    constructor
    · intro scheduled
      by_contra later
      rcases Nat.lt_or_eq_of_le (Nat.le_of_not_lt later) with behind | same
      · have reversed := schedule_keeps_naming_order without apart isSecond behind
        omega
      · exact apart ((List.idxOf_inj isSecond).mp same ▸ needs_itself second)
    · exact schedule_keeps_naming_order apart without isFirst

/-- Edges are asked for first and again after the lanes, and the building last. -/
theorem edges_named_first_come_first :
    ¬ Needs resolveDeps allocateLanes ∧ ¬ Needs allocateLanes resolveDeps ∧
      (schedule [resolveDeps, allocateLanes, resolveDeps, buildTasks]).idxOf resolveDeps <
        (schedule [resolveDeps, allocateLanes, resolveDeps, buildTasks]).idxOf allocateLanes ∧
      (schedule [resolveDeps, allocateLanes, resolveDeps, buildTasks]).idxOf buildTasks <
        (schedule [resolveDeps, allocateLanes, resolveDeps, buildTasks]).idxOf resolveDeps := by
  obtain ⟨_, member, inputs, kept, _⟩ :=
    schedule_is_least_order [resolveDeps, allocateLanes, resolveDeps, buildTasks]
  have apart : ¬ Needs resolveDeps allocateLanes := by decide
  have without : ¬ Needs allocateLanes resolveDeps := by decide
  have scheduled := (member resolveDeps).mpr ⟨resolveDeps, by decide, needs_itself resolveDeps⟩
  refine ⟨apart, without, ?_, inputs resolveDeps scheduled buildTasks List.mem_cons_self⟩
  exact (kept resolveDeps (by decide) allocateLanes (by decide) apart without).mpr (by decide)

end Pass

end Retirement
