import Mathlib.Data.List.Nodup
import Retirement.Instruction.Operand

/-!
Which registers an instruction can have, whatever its text looks like. No register is listed twice
among those read; only the computing and loading classes write one; and nothing is read or written by
a text whose opcode is not known.
-/

namespace Retirement.Instruction

theorem erase_dups_nodup {Item : Type*} [BEq Item] [LawfulBEq Item] (items : List Item) :
    items.eraseDups.Nodup := by
  induction length : items.length using Nat.strongRecOn generalizing items with
  | ind size ih =>
      cases items with
      | nil => exact List.nodup_nil
      | cons first rest =>
          have shorter : (rest.filter fun item => !item == first).length < size := by
            rw [← length, List.length_cons]
            exact Nat.lt_succ_of_le (List.length_filter_le _ _)
          rw [List.eraseDups_cons, List.nodup_cons, List.mem_eraseDups]
          refine ⟨?_, ih _ shorter _ rfl⟩
          intro member
          simp at member

namespace OpClass

def Writes (c : OpClass) : Prop :=
  c = arithmetic ∨ c = indexedLoad ∨ c = fusedMultiplyAccumulate

end OpClass

structure WellRead (opClass : OpClass) (destination : Option String) (sources : List String) :
    Prop where
  distinct : sources.Nodup
  writes : destination.isSome = true → opClass.Writes
  reads : opClass = .unclassified → sources = []

namespace Extract

theorem option_to_list_nodup {Item : Type*} (item : Option Item) : item.toList.Nodup := by
  cases item with
  | none => exact List.nodup_nil
  | some item => exact List.nodup_singleton item

theorem with_destination_sources_nodup {readRest : List Group → List String × Option Issue}
    (distinct : ∀ rest, (readRest rest).1.Nodup) (stop : Nat) (operands : List Group) :
    (withDestination stop readRest operands).sources.Nodup := by
  cases operands with
  | nil => exact List.nodup_nil
  | cons first rest =>
      rw [withDestination]
      split
      · exact distinct rest
      · exact List.nodup_nil

theorem arithmetic_sources_nodup (stop : Nat) (operands : List Group) :
    (arithmetic stop operands).sources.Nodup := by
  apply with_destination_sources_nodup
  intro rest
  cases rest with
  | nil => exact List.nodup_nil
  | cons first rest => exact erase_dups_nodup _

theorem load_sources_nodup (stop : Nat) (operands : List Group) :
    (indexedLoad stop operands).sources.Nodup := by
  apply with_destination_sources_nodup
  intro rest
  cases rest with
  | nil => exact List.nodup_nil
  | cons address rest => exact option_to_list_nodup _

theorem branch_sources_nodup (stop : Nat) (operands : List Group) :
    (conditionalBranch stop operands).sources.Nodup := by
  cases operands with
  | nil => exact List.nodup_nil
  | cons first rest => exact option_to_list_nodup _

theorem branch_without_destination (stop : Nat) (operands : List Group) :
    (conditionalBranch stop operands).destination = none := by
  cases operands <;> rfl

theorem of_class_well_read (stop : Nat) (opClass : OpClass) (operands : List Group) :
    WellRead opClass (ofClass stop opClass operands).destination
      (ofClass stop opClass operands).sources where
  distinct := by
    cases opClass with
    | arithmetic => exact arithmetic_sources_nodup stop operands
    | indexedLoad => exact load_sources_nodup stop operands
    | fusedMultiplyAccumulate => exact arithmetic_sources_nodup stop operands
    | conditionalBranch => exact branch_sources_nodup stop operands
    | unclassified => exact List.nodup_nil
  writes := by
    intro written
    cases opClass with
    | arithmetic => exact Or.inl rfl
    | indexedLoad => exact Or.inr (Or.inl rfl)
    | fusedMultiplyAccumulate => exact Or.inr (Or.inr rfl)
    | conditionalBranch =>
        have nothing : (ofClass stop .conditionalBranch operands).destination = none :=
          branch_without_destination stop operands
        rw [nothing] at written
        contradiction
    | unclassified => contradiction
  reads := by
    intro unknown
    subst unknown
    rfl

end Extract

theorem Operands.well_read (text : List Char) :
    WellRead (ofText text).opClass (ofText text).destination (ofText text).sources :=
  Extract.of_class_well_read _ _ _

end Retirement.Instruction
