import Retirement.Text.Blank

/-!
Unsigned numerals. A register width bounds every number that is read from text: a numeral whose
value does not fit 64 bits is refused and never wraps. Addresses are written and read in base ten,
or in base sixteen after a two-character mark.
-/

namespace Retirement.Text

def maxWord : Nat := 18446744073709551615

def decimalDigit? (c : Char) : Option Nat :=
  if '0' ≤ c ∧ c ≤ '9' then some (c.toNat - '0'.toNat) else none

def hexDigit? (c : Char) : Option Nat :=
  if '0' ≤ c ∧ c ≤ '9' then some (c.toNat - '0'.toNat)
  else if 'a' ≤ c ∧ c ≤ 'f' then some (c.toNat - 'a'.toNat + 10)
  else if 'A' ≤ c ∧ c ≤ 'F' then some (c.toNat - 'A'.toNat + 10)
  else none

/-- Reads digits onto a value already read; any other character, and any step past the largest
word, refuses the whole text. -/
def readDigits (digit? : Char → Option Nat) (base : Nat) : Nat → List Char → Option Nat
  | value, [] => some value
  | value, c :: cs =>
      match digit? c with
      | none => none
      | some d =>
          if base * value + d ≤ maxWord then readDigits digit? base (base * value + d) cs else none

def dropPlus : List Char → List Char
  | '+' :: rest => rest
  | cs => cs

def readUnsigned (digit? : Char → Option Nat) (base : Nat) (cs : List Char) : Option Nat :=
  match dropPlus cs with
  | [] => none
  | digits => readDigits digit? base 0 digits

/-- An address: blanks around it are dropped, and a leading zero with the letter x of either case
switches to base sixteen. -/
def readAddress (cs : List Char) : Option Nat :=
  match trim cs with
  | '0' :: 'x' :: digits => readUnsigned hexDigit? 16 digits
  | '0' :: 'X' :: digits => readUnsigned hexDigit? 16 digits
  | digits => readUnsigned decimalDigit? 10 digits

def decimal (n : Nat) : List Char := Nat.toDigits 10 n

def hexadecimal (n : Nat) : List Char := Nat.toDigits 16 n

end Retirement.Text
