import Mathlib.Data.Nat.Digits.Defs
import Retirement.Text.Numeral

/-!
Numerals and their values. Reading digits one after the other gives the value of all of them exactly
when that fits a word, because no step can pass the limit unless the whole does. What is written for
a number in some base is a numeral of it.
-/

namespace Retirement.Text

def Numeral (digit? : Char → Option Nat) (base : Nat) (text : List Char) (value : Nat) : Prop :=
  text ≠ [] ∧ ∃ digits : List Nat, text.map digit? = digits.map some ∧
    Nat.ofDigits base digits.reverse = value

/-- Digits, the highest first, that are put behind a value. -/
def gather (base : Nat) (value : Nat) (digits : List Nat) : Nat :=
  digits.foldl (fun value digit => base * value + digit) value

theorem gather_zero_eq_of_digits (base : Nat) (digits : List Nat) :
    gather base 0 digits = Nat.ofDigits base digits.reverse := by
  rw [Nat.ofDigits_eq_foldr, List.foldr_reverse]
  unfold gather
  congr
  funext value digit
  exact Nat.add_comm _ _

theorem le_gather {base : Nat} (positive : 0 < base) (value : Nat) (digits : List Nat) :
    value ≤ gather base value digits := by
  induction digits generalizing value with
  | nil => exact le_refl value
  | cons digit digits ih =>
      have grows : value ≤ base * value + digit :=
        (Nat.le_mul_of_pos_left value positive).trans (Nat.le_add_right _ _)
      exact grows.trans (ih (base * value + digit))

theorem read_digits_of_known {digit? : Char → Option Nat} {base : Nat} (positive : 0 < base)
    {text : List Char} {digits : List Nat} (known : text.map digit? = digits.map some)
    {value : Nat} (fits : gather base value digits ≤ maxWord) :
    readDigits digit? base value text = some (gather base value digits) := by
  induction text generalizing digits value with
  | nil =>
      have nothing : digits = [] := List.map_eq_nil_iff.mp known.symm
      rw [nothing]
      rfl
  | cons c cs ih =>
      obtain ⟨digit, others, rfl, first, later⟩ := List.map_eq_cons_iff.mp known.symm
      have stepFits : base * value + digit ≤ maxWord := (le_gather positive _ others).trans fits
      rw [readDigits, ← first]
      simp only [if_pos stepFits]
      exact ih later.symm fits

theorem known_of_read_digits {digit? : Char → Option Nat} {base : Nat} {text : List Char}
    {value result : Nat} (start : value ≤ maxWord)
    (read : readDigits digit? base value text = some result) :
    result ≤ maxWord ∧
      ∃ digits, text.map digit? = digits.map some ∧ gather base value digits = result := by
  induction text generalizing value with
  | nil =>
      obtain rfl := Option.some.inj read
      exact ⟨start, [], rfl, rfl⟩
  | cons c cs ih =>
      rw [readDigits] at read
      cases known : digit? c with
      | none =>
          rw [known] at read
          contradiction
      | some digit =>
          simp only [known] at read
          split_ifs at read with stepFits
          obtain ⟨bounded, digits, later, total⟩ := ih stepFits read
          refine ⟨bounded, digit :: digits, ?_, total⟩
          rw [List.map_cons, List.map_cons, known, later]

theorem drop_plus_cases (text : List Char) : text = dropPlus text ∨ text = '+' :: dropPlus text := by
  unfold dropPlus
  split
  · exact Or.inr rfl
  · exact Or.inl rfl

theorem drop_plus_of_other {text : List Char} (other : ∀ rest, text ≠ '+' :: rest) :
    dropPlus text = text := by
  rcases drop_plus_cases text with kept | signed
  · exact kept.symm
  · exact absurd signed (other _)

theorem drop_plus_of_numeral {digit? : Char → Option Nat} (noSign : digit? '+' = none) {base : Nat}
    {text digits : List Char} {value : Nat} (numeral : Numeral digit? base digits value)
    (sign : text = digits ∨ text = '+' :: digits) : dropPlus text = digits := by
  rcases sign with rfl | rfl
  · apply drop_plus_of_other
    rintro rest rfl
    obtain ⟨_, values, known, _⟩ := numeral
    obtain ⟨value, others, rfl, first, _⟩ := List.map_eq_cons_iff.mp known.symm
    rw [noSign] at first
    contradiction
  · rfl

/-- What is read are digits after at most one sign, and nothing that passes a word. -/
theorem read_unsigned_eq_some_iff {digit? : Char → Option Nat} {base : Nat} (positive : 0 < base)
    (noSign : digit? '+' = none) {text : List Char} {value : Nat} :
    readUnsigned digit? base text = some value ↔ value ≤ maxWord ∧
      ∃ digits, (text = digits ∨ text = '+' :: digits) ∧ Numeral digit? base digits value := by
  constructor
  · intro read
    have sign := drop_plus_cases text
    rw [readUnsigned] at read
    generalize dropPlus text = digits at read sign
    cases digits with
    | nil => contradiction
    | cons c cs =>
        obtain ⟨bounded, digits, known, total⟩ := known_of_read_digits (Nat.zero_le maxWord) read
        rw [gather_zero_eq_of_digits] at total
        exact ⟨bounded, c :: cs, sign, List.cons_ne_nil c cs, digits, known, total⟩
  · rintro ⟨bounded, digits, sign, numeral⟩
    have dropped := drop_plus_of_numeral noSign numeral sign
    obtain ⟨present, values, known, rfl⟩ := numeral
    rw [← gather_zero_eq_of_digits] at bounded ⊢
    rw [readUnsigned, dropped]
    cases digits with
    | nil => exact absurd rfl present
    | cons c cs => exact read_digits_of_known positive known bounded

def AddressText (address : Nat) (text : List Char) : Prop :=
  Numeral decimalDigit? 10 text address ∨
    ∃ digits, (text = '0' :: 'x' :: digits ∨ text = '0' :: 'X' :: digits) ∧
      Numeral hexDigit? 16 digits address

theorem decimal_digit_of_is_digit {c : Char} (isDigit : c.isDigit = true) :
    decimalDigit? c = some (c.toNat - '0'.toNat) := by
  have range : '0' ≤ c ∧ c ≤ '9' := by
    rw [Char.isDigit, Bool.and_eq_true, decide_eq_true_eq, decide_eq_true_eq] at isDigit
    exact isDigit
  exact if_pos range

theorem to_digits_numeral {digit? : Char → Option Nat} {base : Nat} (above : 1 < base)
    (reads : ∀ digit < base, digit? (Nat.digitChar digit) = some digit) (value : Nat) :
    Numeral digit? base (Nat.toDigits base value) value := by
  induction value using Nat.strongRecOn with
  | ind value ih =>
      by_cases small : value < base
      · rw [Nat.toDigits_of_lt_base small]
        refine ⟨List.cons_ne_nil _ _, [value], ?_, Nat.ofDigits_singleton⟩
        rw [List.map_singleton, reads value small, List.map_singleton]
      · have reached : base ≤ value := Nat.le_of_not_lt small
        have smaller : value / base < value := Nat.div_lt_self (by omega) above
        obtain ⟨_, digits, known, total⟩ := ih (value / base) smaller
        rw [Nat.toDigits_of_base_le above reached]
        refine ⟨List.append_ne_nil_of_right_ne_nil _ (List.cons_ne_nil _ _),
          digits ++ [value % base], ?_, ?_⟩
        · rw [List.map_append, List.map_append, known, List.map_singleton, List.map_singleton,
            reads _ (Nat.mod_lt value (by omega))]
        · rw [List.reverse_append, List.reverse_singleton, List.singleton_append, Nat.ofDigits_cons,
            total]
          exact Nat.mod_add_div value base

theorem decimal_numeral (value : Nat) : Numeral decimalDigit? 10 (decimal value) value :=
  to_digits_numeral (by decide) (by decide) value

theorem hexadecimal_numeral (value : Nat) : Numeral hexDigit? 16 (hexadecimal value) value :=
  to_digits_numeral (by decide) (by decide) value

theorem decimal_starts_with_digit_above_zero {value : Nat} (positive : 0 < value) :
    (decimal value).head? ≠ some '0' := by
  induction value using Nat.strongRecOn with
  | ind value ih =>
      unfold decimal at ih ⊢
      by_cases small : value < 10
      · have single : ∀ digit < 10, 0 < digit → [Nat.digitChar digit].head? ≠ some '0' := by decide
        rw [Nat.toDigits_of_lt_base small]
        exact single value small positive
      · have longer : Nat.toDigits 10 value =
            Nat.toDigits 10 (value / 10) ++ [Nat.digitChar (value % 10)] :=
          Nat.toDigits_of_base_le (by decide) (by omega)
        rw [longer, List.head?_append, Option.or_of_isSome (by simp [Nat.toDigits_ne_nil])]
        exact ih (value / 10) (by omega) (by omega)

end Retirement.Text
