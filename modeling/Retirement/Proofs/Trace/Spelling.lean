import Retirement.Proofs.Json.Numbers
import Retirement.Trace.Field

/-!
The texts of a trace. A row is an object whose members stand in any order: each field under one of
its two names, and anything else under other names. An address is a number or a text, and null or
nothing at all where there is none.
-/

namespace Retirement

structure Row.Fits (row : Row) : Prop where
  startCycle : row.startCycle ≤ Text.maxWord
  endCycle : row.endCycle ≤ Text.maxWord
  pc : ∀ pc ∈ row.pc, pc ≤ Text.maxWord

instance (row : Row) : Decidable row.Fits :=
  decidable_of_iff (row.startCycle ≤ Text.maxWord ∧ row.endCycle ≤ Text.maxWord ∧
      ∀ pc ∈ row.pc, pc ≤ Text.maxWord)
    ⟨fun bounds => ⟨bounds.1, bounds.2.1, bounds.2.2⟩,
      fun fits => ⟨fits.startCycle, fits.endCycle, fits.pc⟩⟩

namespace Trace

open Json

def Field.Named (field : Field) (name : String) : Prop :=
  name = field.name ∨ name = field.columnName

theorem of_name_eq_some_iff {name : String} {field : Field} :
    Field.ofName? name = some field ↔ field.Named name := by
  constructor
  · intro found
    have named := List.find?_some found
    simp only [Bool.or_eq_true, beq_iff_eq] at named
    rcases named with same | same
    · exact Or.inl same.symm
    · exact Or.inr same.symm
  · rintro (rfl | rfl)
    · cases field <;> decide
    · cases field <;> decide

theorem of_name_eq_none_iff {name : String} :
    Field.ofName? name = none ↔ ∀ field : Field, ¬ field.Named name := by
  simp only [← of_name_eq_some_iff, Option.eq_none_iff_forall_ne_some, ne_eq]

theorem named_iff_of_known {name : String} {found : Field} (known : Field.ofName? name = some found)
    {field : Field} : field.Named name ↔ field = found := by
  rw [← of_name_eq_some_iff, known, Option.some.injEq, eq_comm]

inductive PcText : Option Nat → List Char → Prop
  | null : PcText none ['n', 'u', 'l', 'l']
  | number {pc : Nat} {text : List Char} (written : IntegerText pc text) : PcText (some pc) text
  | string {pc : Nat} {s : String} {text : List Char} (address : Text.AddressText pc s.toList)
      (spelled : StringText s text) : PcText (some pc) text

def FieldText (row : Row) : Field → List Char → Prop
  | .mnemonic => StringText row.mnemonic
  | .unit => StringText row.unit.name
  | .startCycle => IntegerText row.startCycle
  | .endCycle => IntegerText row.endCycle
  | .pc => PcText row.pc

/-- No two of the members are the same field, in whichever names. -/
def Once (members : List (String × List Char)) : Prop :=
  members.Pairwise fun first second => ∀ field : Field, field.Named first.1 → ¬ field.Named second.1

/-- A member of a row's object: one of its fields, or any value under another name. -/
inductive Tells (row : Row) : String × List Char → Prop
  | field {field : Field} {name : String} {text : List Char} (named : field.Named name)
      (written : FieldText row field text) : Tells row (name, text)
  | extra {name : String} {text : List Char} (unnamed : ∀ field : Field, ¬ field.Named name)
      (formed : WellFormed text) : Tells row (name, text)

def Meets (members : List (String × List Char)) (field : Field) : Prop :=
  ∃ member ∈ members, field.Named member.1

/-- The members of a row's object. Only the address may be left out, if there is none. -/
structure Describes (row : Row) (members : List (String × List Char)) : Prop where
  tells : ∀ member ∈ members, Tells row member
  once : Once members
  present : ∀ field : Field, field ≠ .pc ∨ row.pc ≠ none → Meets members field

theorem meets_cons {member : String × List Char} {members : List (String × List Char)}
    {field : Field} :
    Meets (member :: members) field ↔ field.Named member.1 ∨ Meets members field := by
  simp only [Meets, List.mem_cons, exists_eq_or_imp]

theorem not_meets_cons {member : String × List Char} {members : List (String × List Char)}
    {field : Field} :
    ¬ Meets (member :: members) field ↔ ¬ field.Named member.1 ∧ ¬ Meets members field := by
  rw [meets_cons, not_or]

theorem meets_nil {field : Field} : ¬ Meets [] field := by
  rintro ⟨member, absent, _⟩
  contradiction

theorem meets_iff_mem {members : List (String × List Char)} {field : Field} :
    Meets members field ↔ field ∈ members.filterMap fun member => Field.ofName? member.1 := by
  simp only [Meets, List.mem_filterMap, of_name_eq_some_iff]

theorem once_iff_nodup {members : List (String × List Char)} :
    Once members ↔ (members.filterMap fun member => Field.ofName? member.1).Nodup := by
  unfold Once List.Nodup
  rw [List.pairwise_filterMap]
  simp only [of_name_eq_some_iff]
  apply iff_of_eq
  congr
  funext first second
  apply propext
  constructor
  · rintro apart field named other namedToo rfl
    exact apart field named namedToo
  · intro apart field named namedToo
    exact apart field named field namedToo rfl

def RowText (row : Row) (text : List Char) : Prop :=
  ∃ members, ObjectText StringText members text ∧ Describes row members

def ListText {Entry : Type} (written : Entry → List Char → Prop) (entries : List Entry)
    (text : List Char) : Prop :=
  ∃ before array after, text = before ++ (array ++ after) ∧ Blank before ∧ Blank after ∧
    ArrayText written entries array

def AnyObjectText (members : List (String × List Char)) (text : List Char) : Prop :=
  ObjectText StringText members text ∧ ∀ member ∈ members, WellFormed member.2

/-- A field that every row has is missing, or some field is there twice. -/
def Faulty (members : List (String × List Char)) : Prop :=
  (∃ field : Field, field ≠ .pc ∧ ¬ Meets members field) ∨ ¬ Once members

end Trace

end Retirement
