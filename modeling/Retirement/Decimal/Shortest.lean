import Retirement.Text.Numeral

/-!
The shortest decimal that reads back as a given binary floating-point number. The number is taken
apart into a significand and a power of two, the reals that round to it form an interval, and the
coarsest decimal grid with a point in that interval gives the digits. All arithmetic is exact, on
natural numbers. How digits and exponent are laid out as text is a separate record.
-/

namespace Retirement.Decimal

/-- A positive rational with its rounding interval, all over one denominator. The ends belong to
the interval when `closed` holds. -/
structure Target where
  low : Nat
  value : Nat
  high : Nat
  denominator : Nat
  closed : Bool

/-- The target of a finite, non-zero number given by its 64 bits; the sign bit is ignored. Below a
power of two the numbers lie twice as close as above it. -/
def Target.ofBits (bits : Nat) : Target :=
  let fraction := bits % Nat.pow 2 52
  let biased := bits / Nat.pow 2 52 % Nat.pow 2 11
  let significand := if biased = 0 then fraction else Nat.pow 2 52 + fraction
  let scale := max biased 1
  let up := if 1075 ≤ scale then Nat.pow 2 (scale - 1075) else 1
  let down := if 1075 ≤ scale then 1 else Nat.pow 2 (1075 - scale)
  { low := (4 * significand - if fraction = 0 ∧ 1 < biased then 1 else 2) * up
    value := 4 * significand * up
    high := (4 * significand + 2) * up
    denominator := 4 * down
    closed := significand % 2 = 0 }

def Target.holds (target : Target) (point scale : Nat) : Bool :=
  let low := target.low * scale
  let middle := point * target.denominator
  let high := target.high * scale
  if target.closed then decide (low ≤ middle ∧ middle ≤ high)
  else decide (low < middle ∧ middle < high)

/-- A decimal number `digits * 10 ^ exponent`. -/
structure Digits where
  digits : Nat
  exponent : Int
  deriving DecidableEq, Repr

/-- The better of the two points of the grid of step `10 ^ exponent` next to the target, if one of
them lies in the interval; the nearer wins, and of two equally near the even one. -/
def Target.onGrid? (target : Target) (exponent : Int) : Option Digits :=
  let step := Nat.pow 10 exponent.toNat
  let scale := Nat.pow 10 (-exponent).toNat
  let numerator := target.value * scale
  let denominator := target.denominator * step
  let below := numerator / denominator
  let above := below + 1
  let rest := 2 * (numerator % denominator)
  match target.holds (below * step) scale, target.holds (above * step) scale with
  | false, false => none
  | true, false => some ⟨below, exponent⟩
  | false, true => some ⟨above, exponent⟩
  | true, true =>
      if rest < denominator ∨ rest = denominator ∧ below % 2 = 0 then some ⟨below, exponent⟩
      else some ⟨above, exponent⟩

/-- The first grid with a point in the interval, from the coarsest asked for to ever finer ones.
Seventeen digits are always enough, so the search is bounded by the count given. -/
def Target.search (target : Target) : Nat → Int → Digits
  | 0, exponent => ⟨target.value / target.denominator, exponent⟩
  | fuel + 1, exponent =>
      match target.onGrid? exponent with
      | some found => found
      | none => target.search fuel (exponent - 1)

def Target.magnitude (target : Target) : Int :=
  if target.denominator ≤ target.value then
    (Nat.toDigits 10 (target.value / target.denominator)).length
  else
    -((Nat.toDigits 10 (target.denominator / target.value)).length : Int) + 1

def Digits.strip : Nat → Digits → Digits
  | 0, number => number
  | fuel + 1, number =>
      if number.digits % 10 = 0 then Digits.strip fuel ⟨number.digits / 10, number.exponent + 1⟩
      else number

/-- The fewest digits that read back as the number with these bits. -/
def shortest (bits : Nat) : Digits :=
  let target := Target.ofBits bits
  Digits.strip 20 (target.search 20 target.magnitude)

/-- Where positional notation begins and ends, by the power of ten of the first digit. -/
structure Layout where
  lowestPositional : Int
  highestPositional : Int
  deriving DecidableEq, Repr

/-- Positional notation has digits on both sides of the point; otherwise the first digit, the
point and the others stand before an exponent that always has a sign. -/
def Layout.place (layout : Layout) (number : Digits) : List Char :=
  let digits := Text.decimal number.digits
  let leading := number.exponent + digits.length - 1
  if layout.lowestPositional ≤ leading ∧ leading ≤ layout.highestPositional then
    if 0 ≤ number.exponent then
      digits ++ List.replicate number.exponent.toNat '0' ++ ['.', '0']
    else if 0 ≤ leading then
      digits.take (leading.toNat + 1) ++ '.' :: digits.drop (leading.toNat + 1)
    else
      '0' :: '.' :: List.replicate ((-leading).toNat - 1) '0' ++ digits
  else
    let point := if digits.length = 1 then [] else ['.']
    digits.take 1 ++ point ++ digits.drop 1 ++
      ['e', if leading < 0 then '-' else '+'] ++ Text.decimal leading.natAbs

def Layout.write (layout : Layout) (x : Float) : List Char :=
  let bits := x.toBits.toNat
  let sign := if bits / Nat.pow 2 63 = 1 then ['-'] else []
  if bits % Nat.pow 2 63 = 0 then sign ++ ['0', '.', '0']
  else sign ++ layout.place (shortest bits)

end Retirement.Decimal
