/-!
Instruction classes. The class of an opcode is decided by how the opcode begins, and it decides in
turn which operands are read and written. Sets of classes select the consumers of interest.
-/

namespace Retirement.Instruction

inductive OpClass
  | arithmetic
  | indexedLoad
  | fusedMultiplyAccumulate
  | conditionalBranch
  | unclassified
  deriving DecidableEq, Repr

namespace OpClass

def all : List OpClass :=
  [arithmetic, indexedLoad, fusedMultiplyAccumulate, conditionalBranch, unclassified]

theorem mem_all (c : OpClass) : c ∈ all := by cases c <;> decide

def name : OpClass → String
  | arithmetic => "arithmetic"
  | indexedLoad => "indexed_load"
  | fusedMultiplyAccumulate => "fused_multiply_accumulate"
  | conditionalBranch => "conditional_branch"
  | unclassified => "unclassified"

/-- How the opcodes of a class begin; the first entry that fits an opcode decides. -/
def beginnings : List (String × OpClass) :=
  [("add", arithmetic), ("addi", arithmetic), ("sub", arithmetic), ("slli", arithmetic),
   ("ori", arithmetic), ("flw", indexedLoad), ("vle32.v", indexedLoad),
   ("vfmacc.vf", fusedMultiplyAccumulate), ("beqz", conditionalBranch),
   ("bgeu", conditionalBranch), ("bne", conditionalBranch)]

def ofOpcode (opcode : String) : OpClass :=
  match beginnings.find? fun entry => entry.1.toList.isPrefixOf opcode.toList with
  | some entry => entry.2
  | none => unclassified

end OpClass

structure ClassSet where
  has : OpClass → Bool

namespace ClassSet

instance : Membership OpClass ClassSet := ⟨fun set c => set.has c = true⟩

instance (c : OpClass) (set : ClassSet) : Decidable (c ∈ set) :=
  inferInstanceAs (Decidable (set.has c = true))

def empty : ClassSet := ⟨fun _ => false⟩

def all : ClassSet := ⟨fun _ => true⟩

def insert (set : ClassSet) (c : OpClass) : ClassSet := ⟨fun d => d = c || set.has d⟩

def ofList (classes : List OpClass) : ClassSet := ⟨fun c => classes.contains c⟩

/-- Only fused multiply-accumulate consumers are of interest unless others are asked for. -/
def default : ClassSet := ofList [.fusedMultiplyAccumulate]

/-- The members, each once, in the order of `OpClass.all`. -/
def toList (set : ClassSet) : List OpClass := OpClass.all.filter set.has

def isEmpty (set : ClassSet) : Bool := set.toList.isEmpty

def display (set : ClassSet) : String :=
  "\x7b" ++ ", ".intercalate (set.toList.map OpClass.name) ++ "\x7d"

theorem mem_iff {set : ClassSet} {c : OpClass} : c ∈ set ↔ set.has c = true := Iff.rfl

theorem mem_insert {set : ClassSet} {c d : OpClass} : d ∈ set.insert c ↔ d = c ∨ d ∈ set := by
  simp [mem_iff, insert]

theorem mem_toList {set : ClassSet} {c : OpClass} : c ∈ set.toList ↔ c ∈ set := by
  simp [mem_iff, toList, OpClass.mem_all]

end ClassSet

end Retirement.Instruction
