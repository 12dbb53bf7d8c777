import Retirement.Proofs.Json.Numbers
import Retirement.Proofs.Json.Printing

/-!
The texts of a value. Strings may be spelled in any way and blanks may stand wherever JSON allows
them; natural numbers have to be words. Each of these texts is well formed, and the two texts that
are printed for a value are among them.
-/

namespace Retirement.Json

def NamedText {Entry : Type} (written : Entry → List Char → Prop) (member : String × Entry)
    (text : List Char) : Prop :=
  ∃ value, written member.2 value ∧ MemberText StringText (member.1, value) text

/-- The texts of a value with brackets nested at most so deep. Floating-point and negative numbers
are left out. -/
inductive ValueText : Nat → Value → List Char → Prop
  | null {depth : Nat} : ValueText depth .null ['n', 'u', 'l', 'l']
  | true {depth : Nat} : ValueText depth (.bool true) ['t', 'r', 'u', 'e']
  | false {depth : Nat} : ValueText depth (.bool false) ['f', 'a', 'l', 's', 'e']
  | natural {depth n : Nat} {text : List Char} (fits : n ≤ Text.maxWord)
      (written : IntegerText n text) : ValueText depth (.number (.natural n)) text
  | string {depth : Nat} {s : String} {text : List Char} (spelled : StringText s text) :
      ValueText depth (.string s) text
  | array {depth : Nat} {items : List Value} {text : List Char}
      {written : Value → List Char → Prop} (layout : ArrayText written items text)
      (inner : ∀ item ∈ items, ∀ itemText, written item itemText → ValueText depth item itemText) :
      ValueText (depth + 1) (.array items) text
  | object {depth : Nat} {members : List (String × Value)} {text : List Char}
      {written : Value → List Char → Prop}
      (layout : Enclosed '\x7b' '\x7d' (NamedText written) members text)
      (inner : ∀ member ∈ members, ∀ valueText, written member.2 valueText →
        ValueText depth member.2 valueText) :
      ValueText (depth + 1) (.object members) text

section

variable {Entry Other : Type} {written : Entry → List Char → Prop}
  {other : Other → List Char → Prop} {related : Entry → Other → Prop}

/-- Entries may be exchanged for what their texts are texts of as well. -/
theorem Separated.exchange {entries : List Entry} {body : List Char}
    (layout : Separated written entries body)
    (each : ∀ entry ∈ entries, ∀ text, written entry text → ∃ o, other o text ∧ related entry o) :
    ∃ others, Separated other others body ∧ List.Forall₂ related entries others := by
  induction layout with
  | @last entry text first =>
      obtain ⟨o, isText, known⟩ := each entry List.mem_cons_self text first
      exact ⟨[o], .last isText, .cons known .nil⟩
  | @more entry entries text body first rest ih =>
      obtain ⟨here, later⟩ := List.forall_mem_cons.mp each
      obtain ⟨o, isText, known⟩ := here text first
      obtain ⟨others, separated, all⟩ := ih later
      exact ⟨o :: others, .more isText separated, .cons known all⟩

theorem Enclosed.exchange {opening closing : Char} {entries : List Entry} {text : List Char}
    (layout : Enclosed opening closing written entries text)
    (each : ∀ entry ∈ entries, ∀ text, written entry text → ∃ o, other o text ∧ related entry o) :
    ∃ others, Enclosed opening closing other others text ∧
      List.Forall₂ related entries others := by
  obtain ⟨body, same, content⟩ := layout
  rcases content with ⟨rfl, blank⟩ | separated
  · exact ⟨[], ⟨body, same, Or.inl ⟨rfl, blank⟩⟩, .nil⟩
  · obtain ⟨others, separated, all⟩ := separated.exchange each
    exact ⟨others, ⟨body, same, Or.inr separated⟩, all⟩

theorem exists_related {entries : List Entry} {others : List Other}
    (all : List.Forall₂ related entries others) {o : Other} (member : o ∈ others) :
    ∃ entry ∈ entries, related entry o := by
  induction all with
  | nil => contradiction
  | @cons entry first entries others known _ ih =>
      rcases List.mem_cons.mp member with rfl | later
      · exact ⟨entry, List.mem_cons_self, known⟩
      · obtain ⟨found, isEntry, known⟩ := ih later
        exact ⟨found, List.mem_cons_of_mem entry isEntry, known⟩

end

theorem quotable_of_spells {letters body : List Char} (spells : Spells letters body) :
    Quotable body := by
  induction spells with
  | nil => exact .nil
  | plain plain _ ih => exact .plain plain ih
  | short escape _ ih => exact .short escape ih
  | code digits _ ih => exact .code digits ih
  | pair _ leading trailing _ ih => exact .code leading (.code trailing ih)

theorem well_formed_of_string {s : String} {text : List Char} (spelled : StringText s text) :
    WellFormed text := by
  obtain ⟨body, spells, rfl⟩ := spelled
  exact .string (quotable_of_spells spells)

theorem well_formed_of_integer {n : Nat} {text : List Char} (written : IntegerText n text) :
    WellFormed text := by
  have magnitude := MagnitudeText.intro written.1 .none .none
  rw [List.append_nil, List.append_nil] at magnitude
  exact .number (Or.inl rfl) magnitude

theorem raw_of_named {Entry : Type} {written : Entry → List Char → Prop}
    (member : String × Entry) {text : List Char} (layout : NamedText written member text) :
    ∃ raw : List Char × List Char, MemberText RawText raw text ∧ written member.2 raw.2 := by
  obtain ⟨value, isValue, layout⟩ := layout
  cases layout with
  | intro leadBlank nameSpelled beforeBlank afterBlank trailBlank =>
      obtain ⟨body, spells, same⟩ := nameSpelled
      have raw : RawText body _ := ⟨quotable_of_spells spells, same⟩
      exact ⟨(body, value), .intro leadBlank raw beforeBlank afterBlank trailBlank, isValue⟩

theorem item_of_eq {Entry : Type} {written : Entry → List Char → Prop} {entry : Entry}
    {text : List Char} (layout : ItemText written entry text) :
    ∃ item, ItemText Eq item text ∧ written entry item := by
  cases layout with
  | intro leadBlank itemWritten trailBlank =>
      exact ⟨_, .intro leadBlank rfl trailBlank, itemWritten⟩

theorem ValueText.well_formed {depth : Nat} {value : Value} {text : List Char}
    (written : ValueText depth value text) : WellFormed text := by
  induction written with
  | null => exact .null
  | true => exact .true
  | false => exact .false
  | natural fits written => exact well_formed_of_integer written
  | string spelled => exact well_formed_of_string spelled
  | array layout _ ih =>
      obtain ⟨texts, array, all⟩ := Enclosed.exchange layout fun _ _ _ => item_of_eq
      refine .array array ?_
      intro text member
      obtain ⟨item, isItem, isText⟩ := exists_related all member
      exact ih item isItem text isText
  | object layout _ ih =>
      obtain ⟨texts, object, all⟩ := Enclosed.exchange layout fun member _ _ => raw_of_named member
      refine .object object ?_
      intro raw isRaw
      obtain ⟨member, isMember, isText⟩ := exists_related all isRaw
      exact ih member isMember raw.2 isText

/-- The members of an object's text are those of the object, each with a text of its value. -/
theorem ValueText.members {depth : Nat} {members : List (String × Value)} {text : List Char}
    (written : ValueText depth (.object members) text) :
    ∃ inner, ObjectText StringText inner text ∧ List.Forall₂ (fun member other =>
      other.1 = member.1 ∧ ∃ deep, ValueText deep member.2 other.2) members inner := by
  cases written with
  | object layout inner =>
      apply Enclosed.exchange layout
      intro member isMember text named
      obtain ⟨value, isValue, isText⟩ := named
      exact ⟨(member.1, value), isText, rfl, _, inner member isMember value isValue⟩

theorem names_of_members {members : List (String × Value)} {inner : List (String × List Char)}
    (each : List.Forall₂ (fun member other =>
      other.1 = member.1 ∧ ∃ deep, ValueText deep member.2 other.2) members inner) :
    inner.map Prod.fst = members.map Prod.fst := by
  induction each with
  | nil => rfl
  | cons told _ ih => rw [List.map_cons, List.map_cons, told.1, ih]

theorem ValueText.integer {depth n : Nat} {text : List Char}
    (written : ValueText depth (.nat n) text) : IntegerText n text := by
  cases written with
  | natural fits written => exact written

theorem ValueText.spelled {depth : Nat} {s : String} {text : List Char}
    (written : ValueText depth (.string s) text) : StringText s text := by
  cases written with
  | string spelled => exact spelled

inductive Plain : Nat → Value → Prop
  | null {depth : Nat} : Plain depth .null
  | bool {depth : Nat} (b : Bool) : Plain depth (.bool b)
  | natural {depth n : Nat} (fits : n ≤ Text.maxWord) : Plain depth (.nat n)
  | string {depth : Nat} (s : String) : Plain depth (.string s)
  | array {depth : Nat} {items : List Value} (inner : ∀ item ∈ items, Plain depth item) :
      Plain (depth + 1) (.array items)
  | object {depth : Nat} {members : List (String × Value)}
      (inner : ∀ member ∈ members, Plain depth member.2) : Plain (depth + 1) (.object members)

/-- Members that are printed with their names are named texts of what is printed. -/
theorem named_of_object {print : Value → List Char} {members : List (String × Value)}
    {text : List Char}
    (object : ObjectText StringText (members.map fun member => (member.1, print member.2)) text) :
    Enclosed '\x7b' '\x7d' (NamedText fun value text => text = print value) members text := by
  apply Enclosed.imp _ (Enclosed.of_map object)
  intro member _ text layout
  exact ⟨print member.2, rfl, layout⟩

theorem printed_value_text {print : Nat → Value → List Char} (prints : Prints print) {depth : Nat}
    {value : Value} (plain : Plain depth value) (level : Nat) :
    ValueText depth value (print level value) := by
  induction plain generalizing level with
  | null =>
      rw [(prints.scalars level).null]
      exact .null
  | bool b =>
      cases b with
      | true =>
          rw [(prints.scalars level).true]
          exact .true
      | false =>
          rw [(prints.scalars level).false]
          exact .false
  | @natural depth n fits =>
      rw [(prints.scalars level).number]
      exact .natural fits (integer_text_decimal n)
  | string s =>
      rw [(prints.scalars level).string]
      exact .string (string_text_written s)
  | @array depth items inner ih =>
      apply ValueText.array (prints.array level items)
      intro item member text same
      rw [same]
      exact ih item member (level + 1)
  | @object depth members inner ih =>
      apply ValueText.object (named_of_object (prints.object level members))
      intro member isMember text same
      rw [same]
      exact ih member isMember (level + 1)

end Retirement.Json
