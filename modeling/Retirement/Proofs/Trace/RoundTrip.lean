import Retirement.Proofs.Json.Printing
import Retirement.Proofs.Trace.Loading
import Retirement.Trace.Writer

/-!
The round trip of a trace. What is written for rows is one of their texts, with blanks between the
parts or without, so that writing and loading gives the rows back; and so does loading any other text
of them.
-/

namespace Retirement.Trace

open Json

theorem field_text_printed {print : Value → List Char} (prints : PrintsScalars print) (row : Row)
    (field : Field) : FieldText row field (print (field.value row)) := by
  cases field with
  | mnemonic =>
      rw [Field.value, prints.string]
      exact string_text_written row.mnemonic
  | unit =>
      rw [Field.value, prints.string]
      exact string_text_written row.unit.name
  | startCycle =>
      rw [Field.value, prints.number]
      exact integer_text_decimal row.startCycle
  | endCycle =>
      rw [Field.value, prints.number]
      exact integer_text_decimal row.endCycle
  | pc =>
      change PcText row.pc (print (.ofOption .nat row.pc))
      cases row.pc with
      | none =>
          rw [Value.ofOption, prints.null]
          exact .null
      | some pc =>
          rw [Value.ofOption, prints.number]
          exact .number (integer_text_decimal pc)

theorem of_name_name (field : Field) : Field.ofName? field.name = some field :=
  of_name_eq_some_iff.mpr (Or.inl rfl)

/-- The fields that are written tell the row, each of them once. -/
theorem written_fields_describe {row : Row} {text : Field → List Char}
    (printed : ∀ field, FieldText row field (text field)) :
    Describes row ((Field.all.filter (Field.isWritten row)).map fun field =>
      (field.name, text field)) where
  tells := by
    intro member isMember
    obtain ⟨field, _, rfl⟩ := List.mem_map.mp isMember
    exact .field (Or.inl rfl) (printed field)
  once := by
    have distinct : (Field.all.filter (Field.isWritten row)).Nodup :=
      List.Pairwise.filter _ (by decide : Field.all.Nodup)
    simpa only [once_iff_nodup, List.filterMap_map, Function.comp_def, of_name_name,
      List.filterMap_some] using distinct
  present := by
    intro field needed
    have isWritten : field.isWritten row = true := by
      simpa [Field.isWritten, Option.isSome_iff_ne_none] using needed
    have isField : field ∈ Field.all := by cases field <;> decide
    refine ⟨(field.name, text field), ?_, Or.inl rfl⟩
    exact List.mem_map_of_mem (List.mem_filter.mpr ⟨isField, isWritten⟩)

theorem list_text_of_array {Entry : Type} {written : Entry → List Char → Prop}
    {entries : List Entry} {text : List Char} (array : ArrayText written entries text) :
    ListText written entries text :=
  ⟨[], text, [], (List.append_nil text).symm, blank_nil, blank_nil, array⟩

section

variable {print : Nat → Value → List Char} (prints : Prints print)

include prints

theorem row_text_of_fields (row : Row) (level : Nat) {value : Field → Value}
    (printed : ∀ field, FieldText row field (print (level + 1) (value field))) :
    RowText row (print level (.object
      ((Field.all.filter (Field.isWritten row)).map fun field => (field.name, value field)))) := by
  have object := prints.object level
    ((Field.all.filter (Field.isWritten row)).map fun field => (field.name, value field))
  rw [List.map_map] at object
  exact ⟨_, object, written_fields_describe printed⟩

theorem row_text_printed (row : Row) (level : Nat) : RowText row (print level (rowValue row)) :=
  row_text_of_fields prints row level (field_text_printed (prints.scalars (level + 1)) row)

theorem list_text_of_values {Entry : Type} (row : Entry → Row) (value : Entry → Value) (level : Nat)
    (printed : ∀ entry, RowText (row entry) (print (level + 1) (value entry)))
    (entries : List Entry) :
    ListText RowText (entries.map row) (print level (.array (entries.map value))) := by
  apply list_text_of_array
  apply Enclosed.map
  apply Enclosed.imp _ (Enclosed.of_map (prints.array level (entries.map value)))
  intro entry _ text item
  apply item.imp
  rintro rowText rfl
  exact printed entry

theorem list_text_printed (rows : List Row) (level : Nat) :
    ListText RowText rows (print level (rowsValue rows)) := by
  have printed := fun row => row_text_printed prints row (level + 1)
  have text := list_text_of_values prints id rowValue level printed rows
  rwa [List.map_id] at text

end

theorem list_text_written (rows : List Row) : ListText RowText rows (write rows).toList := by
  rw [write, String.toList_ofList]
  exact list_text_printed compact_prints rows 0

example : write [⟨"a\"b", .fp, 0, 2, some 31⟩] =
    "[\x7b\"mnemonic\":\"a\\\"b\",\"unit\":\"fp\"," ++
      "\"start_cycle\":0,\"end_cycle\":2,\"pc\":31\x7d]" := by
  decide

theorem list_text_written_indented (rows : List Row) :
    ListText RowText rows (writeIndented rows).toList := by
  rw [writeIndented, String.toList_ofList]
  exact list_text_printed pretty_prints rows 0

/-- Every text of rows is loaded as these rows in program order, and what is written for them is such
a text. An array of objects in which a field is missing or stands twice is never loaded. -/
theorem every_spelling_loads_back :
    (∀ rows : List Row, (∀ row ∈ rows, row.Fits) → ∀ text : String,
      ListText RowText rows text.toList ∨ text = write rows ∨ text = writeIndented rows →
        load text = .ok (programOrder rows)) ∧
    (∀ (objects : List (List (String × List Char))) (text : String),
      ListText AnyObjectText objects text.toList → (∃ members ∈ objects, Faulty members) →
        ∃ refusal, load text = .error (.json text refusal)) := by
  constructor
  · intro rows fits text spelled
    have written : ListText RowText rows text.toList := by
      rcases spelled with written | rfl | rfl
      · exact written
      · exact list_text_written rows
      · exact list_text_written_indented rows
    exact load_of_text fits written
  · intro objects text written faulty
    exact faulty_object_refused written faulty

/-- Fields in another order and under the other names, an escape, an address in base sixteen and a
member that is no field; then an object without any field. -/
theorem renamed_fields_load_back :
    load ("[\x7b\"type\":\"fp\",\"x\":[],\"inst\":\"\\u0061\"," ++
        "\"end cycle\":2,\"start_cycle\":0,\"pc\":\"0X1f\"\x7d]") =
        .ok [⟨"a", .fp, 0, 2, some 31⟩] ∧
      ∃ refusal, load "[\x7b\x7d]" = .error (.json "[\x7b\x7d]" refusal) := by
  constructor
  · let row : Row := ⟨"a", .fp, 0, 2, some 31⟩
    let members : List (String × List Char) :=
      [("type", stringText "fp"), ("x", ['[', ']']),
        ("inst", quotedText ['\\', 'u', '0', '0', '6', '1']), ("end cycle", Text.decimal 2),
        ("start_cycle", Text.decimal 0), ("pc", stringText "0X1f")]
    have fits : ∀ row' ∈ [row], row'.Fits := by
      refine List.forall_mem_singleton.mpr ⟨by decide, by decide, ?_⟩
      exact fun pc same => Option.some.inj same ▸ by decide
    have mnemonic : StringText "a" (quotedText ['\\', 'u', '0', '0', '6', '1']) :=
      ⟨_, (show Spells ['a'] _ from .code rfl .nil), rfl⟩
    have address : Text.AddressText 31 "0X1f".toList :=
      Or.inr ⟨['1', 'f'], Or.inr rfl, by decide, [1, 15], rfl, rfl⟩
    have other : ∀ field : Field, ¬ field.Named "x" := of_name_eq_none_iff.mp (by decide)
    have described : Describes row members :=
      { tells := by
          simp only [members, List.forall_mem_cons]
          exact ⟨.field (show Field.unit.Named _ from Or.inr rfl) (string_text_written "fp"),
            .extra other (.array ⟨[], rfl, Or.inl ⟨rfl, blank_nil⟩⟩ nofun),
            .field (show Field.mnemonic.Named _ from Or.inr rfl) mnemonic,
            .field (show Field.endCycle.Named _ from Or.inr rfl) (integer_text_decimal 2),
            .field (show Field.startCycle.Named _ from Or.inl rfl) (integer_text_decimal 0),
            .field (show Field.pc.Named _ from Or.inl rfl)
              (PcText.string address (string_text_written "0X1f")), nofun⟩
        once := once_iff_nodup.mpr (by decide)
        present := by
          intro field _
          rw [meets_iff_mem]
          cases field <;> decide }
    have each : ∀ member : String × List Char,
        MemberText StringText member (stringText member.1 ++ ':' :: member.2) :=
      fun member => member_text_after blank_nil member.1 blank_nil
    have object := separated_of_printed each (member_text_grows blank_nil) ("type", stringText "fp")
      members.tail
    have item : ItemText RowText row _ :=
      .intro blank_nil ⟨members, ⟨_, rfl, Or.inr object⟩, described⟩ blank_nil
    have written := list_text_of_array ⟨_, rfl, Or.inr (.last item)⟩
    have sorted : programOrder [row] = [row] := by simp [programOrder]
    refine (every_spelling_loads_back.1 [row] fits _ (Or.inl ?_)).trans (congrArg _ sorted)
    rw [String.toList_append]
    exact written
  · have object : AnyObjectText [] ['\x7b', '\x7d'] :=
      ⟨⟨[], rfl, Or.inl ⟨rfl, blank_nil⟩⟩, nofun⟩
    have item : ItemText AnyObjectText [] ['\x7b', '\x7d'] := .intro blank_nil object blank_nil
    have faulty : Faulty [] := Or.inl ⟨.mnemonic, by decide, meets_nil⟩
    exact every_spelling_loads_back.2 [[]] "[\x7b\x7d]"
      (list_text_of_array ⟨_, rfl, Or.inr (.last item)⟩) ⟨[], List.mem_cons_self, faulty⟩

end Retirement.Trace
