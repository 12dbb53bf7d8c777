import Retirement.Json.Printer
import Retirement.Proofs.Json.Layout

/-!
What is printed is a JSON text. A printed string spells its characters, and printed containers hold
what their items and members are printed as, with blanks or without.
-/

namespace Retirement.Json

theorem low_control_digits : ∀ n < 16, Text.hexadecimal n = [Nat.digitChar n] ∧
    hexQuad? '0' '0' '0' (Nat.digitChar n) = some n := by
  decide

theorem high_control_digits : ∀ n < 32, 16 ≤ n →
    Text.hexadecimal n = ['1', Nat.digitChar (n - 16)] ∧
      hexQuad? '0' '0' '1' (Nat.digitChar (n - 16)) = some n := by
  decide

theorem spells_escaped (c : Char) {letters body : List Char} (rest : Spells letters body) :
    Spells (c :: letters) (escapeChar c ++ body) := by
  unfold escapeChar
  split
  case h_8 noQuote noEscape _ _ _ _ _ =>
    split_ifs with low control
    · obtain ⟨digits, known⟩ := low_control_digits c.toNat low
      rw [digits]
      exact .code known rest
    · obtain ⟨digits, known⟩ := high_control_digits c.toNat control (by omega)
      rw [digits]
      exact .code known rest
    · exact .plain ⟨by omega, noQuote, noEscape⟩ rest
  all_goals exact .short (by decide) rest

theorem string_text_written (s : String) : StringText s (stringText s) := by
  have spells : ∀ letters : List Char, Spells letters (letters.flatMap escapeChar) := by
    intro letters
    induction letters with
    | nil => exact .nil
    | cons c letters ih =>
        rw [List.flatMap_cons]
        exact spells_escaped c ih
  exact ⟨_, spells s.toList, rfl⟩

section

variable {Entry : Type} {written : Entry → List Char → Prop}

/-- Entries that are printed one after the other, with a comma before each but the first. -/
theorem separated_of_printed {print : Entry → List Char}
    (each : ∀ entry, written entry (print entry)) {trail : List Char}
    (grows : ∀ entry text, written entry text → written entry (text ++ trail)) (entry : Entry)
    (others : List Entry) :
    Separated written (entry :: others)
      (print entry ++ ((others.flatMap fun other => ',' :: print other) ++ trail)) := by
  induction others generalizing entry with
  | nil => exact .last (grows entry _ (each entry))
  | cons other others ih =>
      rw [List.flatMap_cons, List.cons_append, List.cons_append, List.append_assoc]
      exact .more (each entry) (ih other)

theorem item_text_after {lead item : List Char} (leadBlank : Blank lead) {entry : Entry}
    (itemWritten : written entry item) : ItemText written entry (lead ++ item) := by
  have layout := ItemText.intro leadBlank itemWritten blank_nil
  rwa [List.append_nil] at layout

theorem item_text_grows {trail : List Char} (blank : Blank trail) (entry : Entry)
    (text : List Char) (layout : ItemText written entry text) :
    ItemText written entry (text ++ trail) := by
  obtain ⟨leadBlank, itemWritten, trailBlank⟩ := layout
  rw [List.append_assoc, List.append_assoc]
  exact .intro leadBlank itemWritten (blank_append trailBlank blank)

end

theorem member_text_after {lead afterColon value : List Char} (leadBlank : Blank lead)
    (name : String) (afterBlank : Blank afterColon) :
    MemberText StringText (name, value)
      (lead ++ (stringText name ++ ':' :: (afterColon ++ value))) := by
  have layout : MemberText StringText (name, value) _ :=
    .intro leadBlank (string_text_written name) blank_nil afterBlank blank_nil
  rwa [List.append_nil, List.nil_append] at layout

theorem member_text_grows {trail : List Char} (blank : Blank trail)
    (member : String × List Char) (text : List Char)
    (layout : MemberText StringText member text) :
    MemberText StringText member (text ++ trail) := by
  obtain ⟨leadBlank, nameSpelled, beforeBlank, afterBlank, trailBlank⟩ := layout
  simp only [List.append_assoc, List.cons_append]
  exact .intro leadBlank nameSpelled beforeBlank afterBlank (blank_append trailBlank blank)

theorem blank_new_line (depth : Nat) : Blank (newLine depth) := by
  refine List.forall_mem_cons.mpr ⟨by decide, ?_⟩
  intro c member
  rw [List.eq_of_mem_replicate member]
  decide

theorem pretty_items_eq (depth : Nat) (items : List Value) :
    prettyItems depth items = items.flatMap fun item => ',' :: (newLine depth ++ item.pretty depth) := by
  induction items with
  | nil => rfl
  | cons item items ih => rw [prettyItems, ih, List.flatMap_cons, List.cons_append, List.append_assoc]

theorem compact_items_eq (items : List Value) :
    compactItems items = items.flatMap fun item => ',' :: item.compact := by
  induction items with
  | nil => rfl
  | cons item items ih => rw [compactItems, ih, List.flatMap_cons, List.cons_append]

theorem pretty_members_eq (depth : Nat) (members : List (String × Value)) :
    prettyMembers depth members = members.flatMap fun member =>
      ',' :: (newLine depth ++ (stringText member.1 ++ ':' :: ' ' :: member.2.pretty depth)) := by
  induction members with
  | nil => rfl
  | cons member members ih =>
      rw [prettyMembers, ih, List.flatMap_cons]
      simp only [List.cons_append, List.append_assoc]

theorem compact_members_eq (members : List (String × Value)) :
    compactMembers members = members.flatMap fun member =>
      ',' :: (stringText member.1 ++ ':' :: member.2.compact) := by
  induction members with
  | nil => rfl
  | cons member members ih =>
      rw [compactMembers, ih, List.flatMap_cons]
      simp only [List.cons_append, List.append_assoc]

theorem pretty_array_text (depth : Nat) (items : List Value) :
    ArrayText (fun item text => text = item.pretty (depth + 1)) items
      ((Value.array items).pretty depth) := by
  cases items with
  | nil => exact ⟨[], rfl, Or.inl ⟨rfl, blank_nil⟩⟩
  | cons item others =>
      have each : ∀ item : Value, ItemText (fun item text => text = item.pretty (depth + 1)) item
          (newLine (depth + 1) ++ item.pretty (depth + 1)) :=
        fun item => item_text_after (blank_new_line (depth + 1)) rfl
      have separated :=
        separated_of_printed each (item_text_grows (blank_new_line depth)) item others
      refine ⟨_, ?_, Or.inr separated⟩
      simp only [Value.pretty, pretty_items_eq, List.append_assoc]

theorem compact_array_text (items : List Value) :
    ArrayText (fun item text => text = item.compact) items (Value.array items).compact := by
  cases items with
  | nil => exact ⟨[], rfl, Or.inl ⟨rfl, blank_nil⟩⟩
  | cons item others =>
      have each : ∀ item : Value, ItemText (fun item text => text = item.compact) item
          item.compact :=
        fun item => item_text_after blank_nil rfl
      have separated := separated_of_printed each (item_text_grows blank_nil) item others
      refine ⟨_, ?_, Or.inr separated⟩
      simp only [Value.compact, compact_items_eq, List.append_assoc, List.append_nil]

theorem pretty_object_text (depth : Nat) (members : List (String × Value)) :
    ObjectText StringText (members.map fun member => (member.1, member.2.pretty (depth + 1)))
      ((Value.object members).pretty depth) := by
  cases members with
  | nil => exact ⟨[], rfl, Or.inl ⟨rfl, blank_nil⟩⟩
  | cons member others =>
      have space : Blank [' '] := List.forall_mem_singleton.mpr (by decide)
      have each : ∀ member : String × Value,
          MemberText StringText (member.1, member.2.pretty (depth + 1))
            (newLine (depth + 1) ++ (stringText member.1 ++ ':' ::
              ([' '] ++ member.2.pretty (depth + 1)))) :=
        fun member => member_text_after (blank_new_line (depth + 1)) member.1 space
      have separated := separated_of_printed each
        (fun member => member_text_grows (blank_new_line depth) _) member others
      refine ⟨_, ?_, Or.inr separated.map⟩
      simp [Value.pretty, pretty_members_eq]

theorem compact_object_text (members : List (String × Value)) :
    ObjectText StringText (members.map fun member => (member.1, member.2.compact))
      (Value.object members).compact := by
  cases members with
  | nil => exact ⟨[], rfl, Or.inl ⟨rfl, blank_nil⟩⟩
  | cons member others =>
      have each : ∀ member : String × Value, MemberText StringText (member.1, member.2.compact)
          (stringText member.1 ++ ':' :: member.2.compact) :=
        fun member => member_text_after blank_nil member.1 blank_nil
      have separated := separated_of_printed each
        (fun member => member_text_grows blank_nil _) member others
      refine ⟨_, ?_, Or.inr separated.map⟩
      simp [Value.compact, compact_members_eq]

structure PrintsScalars (print : Value → List Char) : Prop where
  string : ∀ s, print (.string s) = stringText s
  number : ∀ n, print (.nat n) = Text.decimal n
  null : print .null = ['n', 'u', 'l', 'l']
  true : print (.bool true) = ['t', 'r', 'u', 'e']
  false : print (.bool false) = ['f', 'a', 'l', 's', 'e']

theorem compact_scalars : PrintsScalars Value.compact where
  string s := by rw [Value.compact]
  number n := by rw [Value.nat, Value.compact, Number.text]
  null := by rw [Value.compact]
  true := by rw [Value.compact]
  false := by rw [Value.compact]

theorem pretty_scalars (depth : Nat) : PrintsScalars (Value.pretty depth) where
  string s := by rw [Value.pretty]
  number n := by rw [Value.nat, Value.pretty, Number.text]
  null := by rw [Value.pretty]
  true := by rw [Value.pretty]
  false := by rw [Value.pretty]

/-- Containers are printed with what their items are printed as one level further in. -/
structure Prints (print : Nat → Value → List Char) : Prop where
  scalars : ∀ level, PrintsScalars (print level)
  array : ∀ level items, ArrayText (fun item text => text = print (level + 1) item) items
    (print level (.array items))
  object : ∀ level members,
    ObjectText StringText (members.map fun member => (member.1, print (level + 1) member.2))
      (print level (.object members))

theorem compact_prints : Prints fun _ => Value.compact where
  scalars _ := compact_scalars
  array _ := compact_array_text
  object _ := compact_object_text

theorem pretty_prints : Prints Value.pretty where
  scalars := pretty_scalars
  array := pretty_array_text
  object := pretty_object_text

end Retirement.Json
