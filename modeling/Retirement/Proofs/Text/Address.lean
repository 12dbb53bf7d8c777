import Mathlib.Data.List.Forall2
import Retirement.Proofs.Text.Numeral
import Retirement.Proofs.Text.Trimming

/-!
The texts that are read as addresses, and their values. They are told without a reader: digits of
their base in either case after at most one plus sign, behind a mark for base sixteen, and with blanks
around. No text has two values, so that one whose value passes a word is refused.
-/

namespace Retirement.Text

def IsDigit (base : Nat) (c : Char) (digit : Nat) : Prop :=
  digit < base ∧ (c = Nat.digitChar digit ∨ c = (Nat.digitChar digit).toUpper)

instance (base : Nat) (c : Char) (digit : Nat) : Decidable (IsDigit base c digit) :=
  inferInstanceAs (Decidable (_ ∧ _))

/-- One or more digits, the highest first, that together have this value in the base. -/
def Digits (base : Nat) (text : List Char) (value : Nat) : Prop :=
  text ≠ [] ∧ ∃ digits : List Nat, List.Forall₂ (IsDigit base) text digits ∧
    Nat.ofDigits base digits.reverse = value

def Unsigned (base : Nat) (text : List Char) (value : Nat) : Prop :=
  ∃ digits, (text = digits ∨ text = '+' :: digits) ∧ Digits base digits value

def Marked (text digits : List Char) : Prop :=
  text = '0' :: 'x' :: digits ∨ text = '0' :: 'X' :: digits

/-- An address in base ten, or in base sixteen behind the mark. -/
def SpelledAddress (text : List Char) (address : Nat) : Prop :=
  Unsigned 10 text address ∨ ∃ digits, Marked text digits ∧ Unsigned 16 digits address

theorem hex_digit_is_ascii {c : Char} {digit : Nat} (known : hexDigit? c = some digit) :
    c.toNat < 128 := by
  have below : ∀ last : Char, last.toNat < 128 → c ≤ last → c.toNat < 128 := by
    intro last ascii upTo
    have ordered : c.toNat ≤ last.toNat := UInt32.le_iff_toNat_le.mp upTo
    exact ordered.trans_lt ascii
  unfold hexDigit? at known
  split_ifs at known with decimal lower upper
  · exact below '9' (by decide) decimal.2
  · exact below 'f' (by decide) lower.2
  · exact below 'F' (by decide) upper.2

theorem hex_digit_of_decimal {c : Char} {digit : Nat} (known : decimalDigit? c = some digit) :
    hexDigit? c = some digit := by
  unfold decimalDigit? at known
  unfold hexDigit?
  split_ifs at known ⊢
  exact known

/-- A reader that knows no digit above seven bits is compared with the digits by two tables. -/
theorem digit_iff_of_tables {digit? : Char → Option Nat} {base : Nat}
    (below : ∀ c digit, digit? c = some digit → c.toNat < 128)
    (sound : ∀ n < 128, ∀ digit ∈ digit? (Char.ofNat n), IsDigit base (Char.ofNat n) digit)
    (complete : ∀ digit < base, digit? (Nat.digitChar digit) = some digit ∧
      digit? (Nat.digitChar digit).toUpper = some digit)
    (c : Char) (digit : Nat) : digit? c = some digit ↔ IsDigit base c digit := by
  constructor
  · intro known
    have tabled := sound c.toNat (below c digit known) digit
    rw [Char.ofNat_toNat] at tabled
    exact tabled known
  · rintro ⟨small, rfl | rfl⟩
    · exact (complete digit small).1
    · exact (complete digit small).2

theorem hex_digit_iff (c : Char) (digit : Nat) : hexDigit? c = some digit ↔ IsDigit 16 c digit := by
  apply digit_iff_of_tables (fun _ _ => hex_digit_is_ascii)
  · decide
  · decide

theorem decimal_digit_iff (c : Char) (digit : Nat) :
    decimalDigit? c = some digit ↔ IsDigit 10 c digit := by
  apply digit_iff_of_tables fun _ _ known => hex_digit_is_ascii (hex_digit_of_decimal known)
  · decide
  · decide

theorem digit_is_no_blank {c : Char} {digit : Nat} (isDigit : IsDigit 16 c digit) :
    isBlank c = false := by
  have both : ∀ digit < 16, isBlank (Nat.digitChar digit) = false ∧
      isBlank (Nat.digitChar digit).toUpper = false := by
    decide
  obtain ⟨below, rfl | rfl⟩ := isDigit
  · exact (both digit below).1
  · exact (both digit below).2

theorem IsDigit.mono {base larger : Nat} (le : base ≤ larger) {c : Char} {digit : Nat}
    (isDigit : IsDigit base c digit) : IsDigit larger c digit :=
  ⟨isDigit.1.trans_le le, isDigit.2⟩

section

variable {digit? : Char → Option Nat} {base : Nat}
  (reads : ∀ c digit, digit? c = some digit ↔ IsDigit base c digit)

include reads

theorem numeral_iff_digits {text : List Char} {value : Nat} :
    Numeral digit? base text value ↔ Digits base text value := by
  have known : ∀ digits : List Nat,
      text.map digit? = digits.map some ↔ List.Forall₂ (IsDigit base) text digits := by
    intro digits
    rw [← List.forall₂_eq_eq_eq, List.forall₂_map_left_iff, List.forall₂_map_right_iff]
    simp only [reads]
  unfold Numeral Digits
  simp only [known]

theorem digits_are_digits {text : List Char} {value : Nat} (spelled : Digits base text value) :
    ∀ c ∈ text, ∃ digit, IsDigit base c digit := by
  obtain ⟨_, digits, known, _⟩ := (numeral_iff_digits reads).mpr spelled
  intro c member
  have read : digit? c ∈ digits.map some := by
    rw [← known]
    exact List.mem_map_of_mem member
  obtain ⟨digit, _, same⟩ := List.mem_map.mp read
  exact ⟨digit, (reads c digit).mp same.symm⟩

theorem digits_without_blanks (small : base ≤ 16) {text : List Char} {value : Nat}
    (spelled : Digits base text value) : ∀ c ∈ text, isBlank c = false := by
  intro c member
  obtain ⟨digit, isDigit⟩ := digits_are_digits reads spelled c member
  exact digit_is_no_blank (isDigit.mono small)

theorem digits_value_unique {text : List Char} {value other : Nat}
    (spelled : Digits base text value) (again : Digits base text other) : value = other := by
  obtain ⟨_, digits, known, rfl⟩ := (numeral_iff_digits reads).mpr spelled
  obtain ⟨_, same, alike, rfl⟩ := (numeral_iff_digits reads).mpr again
  have agree : digits = same :=
    List.map_injective_iff.mpr (Option.some_injective Nat) (known.symm.trans alike)
  rw [agree]

variable (noSign : digit? '+' = none)

include noSign

theorem unsigned_value_unique {text : List Char} {value other : Nat}
    (spelled : Unsigned base text value) (again : Unsigned base text other) : value = other := by
  obtain ⟨digits, sign, digitsSpelled⟩ := spelled
  obtain ⟨same, signAgain, sameSpelled⟩ := again
  have dropped : dropPlus text = digits :=
    drop_plus_of_numeral noSign ((numeral_iff_digits reads).mpr digitsSpelled) sign
  have droppedAgain : dropPlus text = same :=
    drop_plus_of_numeral noSign ((numeral_iff_digits reads).mpr sameSpelled) signAgain
  rw [← droppedAgain, dropped] at sameSpelled
  exact digits_value_unique reads digitsSpelled sameSpelled

theorem read_unsigned_iff (positive : 0 < base) {text : List Char} {value : Nat} :
    readUnsigned digit? base text = some value ↔ value ≤ maxWord ∧ Unsigned base text value := by
  rw [read_unsigned_eq_some_iff positive noSign]
  simp only [numeral_iff_digits reads, Unsigned]

end

theorem Marked.drop_eq {text digits : List Char} (marked : Marked text digits) :
    text.drop 2 = digits := by
  rcases marked with rfl | rfl
  · rfl
  · rfl

/-- The letter of the mark is no decimal digit. -/
theorem marked_is_no_decimal {text digits : List Char} (marked : Marked text digits)
    {address : Nat} : ¬ Unsigned 10 text address := by
  have start : ∃ mark, decimalDigit? mark = none ∧ text = '0' :: mark :: digits := by
    rcases marked with same | same
    · exact ⟨'x', by decide, same⟩
    · exact ⟨'X', by decide, same⟩
  obtain ⟨mark, noDigit, rfl⟩ := start
  rintro ⟨run, sign, spelled⟩
  rcases sign with rfl | signed
  · have second : mark ∈ '0' :: mark :: digits := List.mem_cons_of_mem _ List.mem_cons_self
    obtain ⟨digit, isDigit⟩ := digits_are_digits decimal_digit_iff spelled mark second
    rw [← decimal_digit_iff, noDigit] at isDigit
    contradiction
  · exact absurd (List.cons.inj signed).1 (by decide)

theorem spelled_of_marked {text digits : List Char} (marked : Marked text digits) {address : Nat} :
    SpelledAddress text address ↔ Unsigned 16 digits address := by
  constructor
  · rintro (decimal | ⟨same, again, spelled⟩)
    · exact absurd decimal (marked_is_no_decimal marked)
    · rw [← again.drop_eq, marked.drop_eq] at spelled
      exact spelled
  · intro spelled
    exact Or.inr ⟨digits, marked, spelled⟩

theorem spelled_of_unmarked {text : List Char} (plain : ∀ digits, ¬ Marked text digits)
    {address : Nat} : SpelledAddress text address ↔ Unsigned 10 text address := by
  apply or_iff_left
  rintro ⟨digits, marked, _⟩
  exact plain digits marked

theorem spelled_address_unique {text : List Char} {address other : Nat}
    (spelled : SpelledAddress text address) (again : SpelledAddress text other) :
    address = other := by
  by_cases marked : ∃ digits, Marked text digits
  · obtain ⟨digits, isMarked⟩ := marked
    rw [spelled_of_marked isMarked] at spelled again
    exact unsigned_value_unique hex_digit_iff (by decide) spelled again
  · have plain := not_exists.mp marked
    rw [spelled_of_unmarked plain] at spelled again
    exact unsigned_value_unique decimal_digit_iff (by decide) spelled again

theorem read_address_of_trimmed {text : List Char} {address : Nat} :
    readAddress text = some address ↔ address ≤ maxWord ∧ SpelledAddress (trim text) address := by
  unfold readAddress
  generalize trim text = middle
  split
  case h_1 digits =>
    rw [spelled_of_marked (Or.inl rfl), read_unsigned_iff hex_digit_iff (by decide) (by decide)]
  case h_2 digits =>
    rw [spelled_of_marked (Or.inr rfl), read_unsigned_iff hex_digit_iff (by decide) (by decide)]
  case h_3 noLower noUpper =>
    have plain : ∀ digits, ¬ Marked middle digits := by
      rintro digits (same | same)
      · exact noLower digits same
      · exact noUpper digits same
    rw [spelled_of_unmarked plain, read_unsigned_iff decimal_digit_iff (by decide) (by decide)]

/-- A text is read as an address exactly when a spelling of it that fits a word stands between
blanks. -/
theorem read_address_iff {text : List Char} {address : Nat} :
    readAddress text = some address ↔
      address ≤ maxWord ∧ ∃ middle, Stripped text middle ∧ SpelledAddress middle address := by
  rw [read_address_of_trimmed]
  simp only [stripped_iff, exists_eq_left']

theorem large_address_refused {text middle : List Char} (stripped : Stripped text middle)
    {address : Nat} (spelled : SpelledAddress middle address) (large : maxWord < address) :
    readAddress text = none := by
  rw [Option.eq_none_iff_forall_ne_some]
  intro other read
  obtain ⟨fits, again⟩ := read_address_of_trimmed.mp read
  rw [stripped.trim_eq] at again
  rw [spelled_address_unique spelled again] at large
  exact absurd fits (Nat.not_le_of_lt large)

theorem address_text_spells {address : Nat} {text : List Char}
    (written : AddressText address text) : SpelledAddress text address := by
  rcases written with decimal | ⟨digits, marked, numeral⟩
  · exact Or.inl ⟨text, Or.inl rfl, (numeral_iff_digits decimal_digit_iff).mp decimal⟩
  · exact Or.inr ⟨digits, marked, digits, Or.inl rfl, (numeral_iff_digits hex_digit_iff).mp numeral⟩

theorem address_text_without_blanks {address : Nat} {text : List Char}
    (written : AddressText address text) : ∀ c ∈ text, isBlank c = false := by
  rcases written with decimal | ⟨digits, marked, numeral⟩
  · have spelled := (numeral_iff_digits decimal_digit_iff).mp decimal
    exact digits_without_blanks decimal_digit_iff (by decide) spelled
  · have spelled := (numeral_iff_digits hex_digit_iff).mp numeral
    have solid := digits_without_blanks hex_digit_iff le_rfl spelled
    rcases marked with rfl | rfl
    · exact List.forall_mem_cons.mpr ⟨by decide, List.forall_mem_cons.mpr ⟨by decide, solid⟩⟩
    · exact List.forall_mem_cons.mpr ⟨by decide, List.forall_mem_cons.mpr ⟨by decide, solid⟩⟩

theorem read_address_of_text {address : Nat} {text : List Char}
    (written : AddressText address text) (fits : address ≤ maxWord) :
    readAddress text = some address := by
  rw [read_address_of_trimmed, trim_without_blanks (address_text_without_blanks written)]
  exact ⟨fits, address_text_spells written⟩

end Retirement.Text
