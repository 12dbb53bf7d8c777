import Retirement.Proofs.Trace.RoundTrip

/-!
Addresses in rows. The text of an address is read as exactly the one number that it spells, if that
fits a word, and every other text is refused. So a row loads with its address whether that is written
as a number, in base ten or in base sixteen.
-/

namespace Retirement.Trace

open Json

inductive AddressForm
  | number
  | decimal
  | hexadecimal
  deriving DecidableEq, Repr

def AddressForm.value : AddressForm → Nat → Value
  | number, address => .nat address
  | decimal, address => .string (String.ofList (Text.decimal address))
  | hexadecimal, address => .string (String.ofList ('0' :: 'x' :: Text.hexadecimal address))

def Field.valueIn (form : AddressForm) (row : Row) : Field → Value
  | pc => .ofOption form.value row.pc
  | field => field.value row

def rowValueIn (form : AddressForm) (row : Row) : Value :=
  .object ((Field.all.filter (Field.isWritten row)).map fun field =>
    (field.name, field.valueIn form row))

def writeIn (entries : List (Row × AddressForm)) : String :=
  String.ofList (Value.array (entries.map fun entry => rowValueIn entry.2 entry.1)).compact

theorem pc_text_in_form {print : Value → List Char} (prints : PrintsScalars print)
    (form : AddressForm) (address : Nat) : PcText (some address) (print (form.value address)) := by
  cases form with
  | number =>
      rw [AddressForm.value, prints.number]
      exact .number (integer_text_decimal address)
  | decimal =>
      have text : Text.AddressText address (String.ofList (Text.decimal address)).toList := by
        rw [String.toList_ofList]
        exact Or.inl (Text.decimal_numeral address)
      rw [AddressForm.value, prints.string]
      exact .string text (string_text_written _)
  | hexadecimal =>
      have text : Text.AddressText address
          (String.ofList ('0' :: 'x' :: Text.hexadecimal address)).toList := by
        rw [String.toList_ofList]
        exact Or.inr ⟨_, Or.inl rfl, Text.hexadecimal_numeral address⟩
      rw [AddressForm.value, prints.string]
      exact .string text (string_text_written _)

theorem field_text_in_form {print : Value → List Char} (prints : PrintsScalars print)
    (form : AddressForm) (row : Row) (field : Field) :
    FieldText row field (print (field.valueIn form row)) := by
  cases field with
  | pc =>
      change PcText row.pc (print (.ofOption form.value row.pc))
      cases row.pc with
      | none =>
          rw [Value.ofOption, prints.null]
          exact .null
      | some address => exact pc_text_in_form prints form address
  | _ => exact field_text_printed prints row _

theorem list_text_in_forms (entries : List (Row × AddressForm)) :
    ListText RowText (entries.map Prod.fst) (writeIn entries).toList := by
  have printed : ∀ entry : Row × AddressForm,
      RowText entry.1 (rowValueIn entry.2 entry.1).compact := by
    intro entry
    apply row_text_of_fields compact_prints entry.1 0
    exact field_text_in_form compact_scalars entry.2 entry.1
  rw [writeIn, String.toList_ofList]
  exact list_text_of_values compact_prints Prod.fst _ 0 printed entries

example : writeIn [(⟨"a", .fp, 0, 2, some 31⟩, .hexadecimal)] =
    "[\x7b\"mnemonic\":\"a\",\"unit\":\"fp\"," ++
      "\"start_cycle\":0,\"end_cycle\":2,\"pc\":\"0x1f\"\x7d]" := by
  decide

/-- A text is read as an address exactly when, between blanks, it spells one that fits a word; a text
that spells a larger one is refused. Rows load with their addresses in whichever form these are
written. -/
theorem addresses_are_read_as_spelled :
    (∀ (text : List Char) (address : Nat), Text.readAddress text = some address ↔
      address < 2 ^ 64 ∧
        ∃ middle, Text.Stripped text middle ∧ Text.SpelledAddress middle address) ∧
    (∀ (text middle : List Char) (address : Nat), Text.Stripped text middle →
      Text.SpelledAddress middle address → 2 ^ 64 ≤ address → Text.readAddress text = none) ∧
    ∀ entries : List (Row × AddressForm), (∀ entry ∈ entries, entry.1.Fits) →
      load (writeIn entries) = .ok (programOrder (entries.map Prod.fst)) := by
  have fits_iff : ∀ address : Nat, address ≤ Text.maxWord ↔ address < 2 ^ 64 := by
    intro address
    unfold Text.maxWord
    omega
  refine ⟨?_, ?_, ?_⟩
  · intro text address
    rw [Text.read_address_iff, fits_iff]
  · intro text middle address stripped spelled large
    apply Text.large_address_refused stripped spelled
    rw [← Nat.not_le, fits_iff]
    exact Nat.not_lt_of_le large
  · intro entries fits
    apply load_of_text _ (list_text_in_forms entries)
    intro row member
    obtain ⟨entry, isEntry, rfl⟩ := List.mem_map.mp member
    exact fits entry isEntry

/-- A sign and zeros between blanks, the largest word in digits of either case, the number above it,
and a row with a hexadecimal address. -/
theorem largest_word_is_read :
    Text.readAddress [' ', '+', '0', '4', '2', '\u2003'] = some 42 ∧
      Text.readAddress ('0' :: 'X' :: '+' :: 'f' :: List.replicate 15 'F') =
        some 18446744073709551615 ∧
      Text.readAddress ('0' :: 'x' :: '1' :: List.replicate 16 '0') = none ∧
      load (writeIn [(⟨"a", .fp, 0, 2, some 31⟩, .hexadecimal)]) =
        .ok [⟨"a", .fp, 0, 2, some 31⟩] := by
  refine ⟨?_, ?_, ?_, ?_⟩
  · have spelled : Text.SpelledAddress ['+', '0', '4', '2'] 42 :=
      Or.inl ⟨_, Or.inr rfl,
        (Text.numeral_iff_digits Text.decimal_digit_iff).mp ⟨by decide, [0, 4, 2], by decide, rfl⟩⟩
    have stripped := Text.stripped_trim [' ', '+', '0', '4', '2', '\u2003']
    exact (addresses_are_read_as_spelled.1 _ _).mpr ⟨by decide, _, stripped, spelled⟩
  · have spelled : Text.SpelledAddress ('0' :: 'X' :: '+' :: 'f' :: List.replicate 15 'F')
        18446744073709551615 :=
      Or.inr ⟨_, Or.inr rfl, _, Or.inr rfl,
        (Text.numeral_iff_digits Text.hex_digit_iff).mp
          ⟨by decide, List.replicate 16 15, by decide, rfl⟩⟩
    have stripped := Text.stripped_trim ('0' :: 'X' :: '+' :: 'f' :: List.replicate 15 'F')
    exact (addresses_are_read_as_spelled.1 _ _).mpr ⟨by decide, _, stripped, spelled⟩
  · have spelled : Text.SpelledAddress ('0' :: 'x' :: '1' :: List.replicate 16 '0')
        18446744073709551616 :=
      Or.inr ⟨_, Or.inl rfl, _, Or.inl rfl,
        (Text.numeral_iff_digits Text.hex_digit_iff).mp
          ⟨by decide, 1 :: List.replicate 16 0, by decide, rfl⟩⟩
    have stripped := Text.stripped_trim ('0' :: 'x' :: '1' :: List.replicate 16 '0')
    exact addresses_are_read_as_spelled.2.1 _ _ _ stripped spelled (by decide)
  · let row : Row := ⟨"a", .fp, 0, 2, some 31⟩
    have fits : ∀ entry ∈ [(row, AddressForm.hexadecimal)], entry.1.Fits :=
      List.forall_mem_singleton.mpr (by decide)
    have sorted : programOrder [row] = [row] := by simp [programOrder]
    exact (addresses_are_read_as_spelled.2.2 _ fits).trans (congrArg _ sorted)

end Retirement.Trace
