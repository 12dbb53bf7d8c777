import Retirement.Json.Fault

/-!
The numbers of a JSON text. Digits are gathered into a significand as long as it fits 64 bits; what
does not fit only moves the decimal exponent. A number without fraction, exponent or lost digits is
an integer, any other is a floating-point number, scaled by one multiplication or division.
-/

namespace Retirement.Json

open Text (decimalDigit?)

def isDigit (c : Char) : Bool := (decimalDigit? c).isSome

def startsWithDigit : List Char → Bool
  | c :: _ => isDigit c
  | [] => false

/-- Gathers digits while the significand fits; gives also the place of the first one that does not,
or that is no digit. -/
def fittingDigits (significand offset : Nat) : List Char → Nat × Cursor
  | [] => (significand, ⟨offset, []⟩)
  | c :: cs =>
      match decimalDigit? c with
      | none => (significand, ⟨offset, c :: cs⟩)
      | some d =>
          if 10 * significand + d ≤ Text.maxWord then
            fittingDigits (10 * significand + d) (offset + 1) cs
          else (significand, ⟨offset, c :: cs⟩)

def spareDigits (count offset : Nat) : List Char → Nat × Cursor
  | [] => (count, ⟨offset, []⟩)
  | c :: cs =>
      if isDigit c then spareDigits (count + 1) (offset + 1) cs else (count, ⟨offset, c :: cs⟩)

/-- The exponents that are worked with; a larger one has digits that do not fit 32 bits. -/
def maxExponent : Nat := 2147483647

/-- Gathers the digits of an exponent. The value is absent when it grows too large, and then the
place is just after the digit that made it so. -/
def exponentDigits (value offset : Nat) : List Char → Option Nat × Cursor
  | [] => (some value, ⟨offset, []⟩)
  | c :: cs =>
      match decimalDigit? c with
      | none => (some value, ⟨offset, c :: cs⟩)
      | some d =>
          if 10 * value + d ≤ maxExponent then exponentDigits (10 * value + d) (offset + 1) cs
          else (none, ⟨offset + 1, cs⟩)

def largestPower : Nat := 308

def powerOfTen (exponent : Nat) : Float := Float.ofScientific 1 false exponent

/-- Divides by a power of ten, in steps when the power is too large for one. Four steps take any
significand to zero. -/
def divideByPower : Nat → Float → Nat → Float
  | 0, x, _ => x
  | fuel + 1, x, exponent =>
      if exponent ≤ largestPower then x / powerOfTen exponent
      else if x == 0 then x
      else divideByPower fuel (x / powerOfTen largestPower) (exponent - largestPower)

def scale? (significand : Nat) (exponent : Int) : Option Float :=
  let x := significand.toUInt64.toFloat
  if exponent < 0 then some (divideByPower 4 x exponent.natAbs)
  else if exponent.natAbs ≤ largestPower then
    let scaled := x * powerOfTen exponent.natAbs
    if scaled.isInf then none else some scaled
  else if x == 0 then some x
  else none

def signed (negative : Bool) (x : Float) : Number := .float (if negative then -x else x)

def scaled (negative : Bool) (significand : Nat) (exponent : Int) (cursor : Cursor) :
    Except Refusal (Number × Cursor) :=
  match scale? significand exponent with
  | some x => .ok (signed negative x, cursor)
  | none => .error (cursor.refuse .numberOutOfRange)

def readExponent (negative : Bool) (significand : Nat) (start : Int) (cursor : Cursor) :
    Except Refusal (Number × Cursor) :=
  let (down, cursor) : Bool × Cursor := match cursor.rest with
    | '+' :: rest => (false, ⟨cursor.offset + 1, rest⟩)
    | '-' :: rest => (true, ⟨cursor.offset + 1, rest⟩)
    | _ => (false, cursor)
  match cursor.rest with
  | [] => .error (cursor.refuse .endInValue)
  | c :: _ =>
      if isDigit c then
        match exponentDigits 0 cursor.offset cursor.rest with
        | (some value, after) =>
            scaled negative significand (if down then start - value else start + value) after
        | (none, after) =>
            if significand ≠ 0 ∧ down = false then .error (after.refuse .numberOutOfRange)
            else .ok (signed negative 0, (spareDigits 0 after.offset after.rest).2)
      else .error ⟨.invalidNumber, cursor.offset + 1⟩

/-- Goes on after the last digit of a number that is not an integer. -/
def readScaled (negative : Bool) (significand : Nat) (exponent : Int) (cursor : Cursor) :
    Except Refusal (Number × Cursor) :=
  match cursor.rest with
  | 'e' :: rest => readExponent negative significand exponent ⟨cursor.offset + 1, rest⟩
  | 'E' :: rest => readExponent negative significand exponent ⟨cursor.offset + 1, rest⟩
  | _ => scaled negative significand exponent cursor

/-- Reads a fraction after its point, for a significand whose last `lost` digits were left out. -/
def readFraction (negative : Bool) (significand lost : Nat) (cursor : Cursor) :
    Except Refusal (Number × Cursor) :=
  if startsWithDigit cursor.rest then
    let (longer, after) := fittingDigits significand cursor.offset cursor.rest
    let kept := after.offset - cursor.offset
    readScaled negative longer ((lost : Int) - kept) (spareDigits 0 after.offset after.rest).2
  else if cursor.rest.isEmpty then .error (cursor.refuse .endInValue)
  else .error (cursor.refuseNext .invalidNumber)

/-- An integer of 64 bits, or the nearest floating-point number. Zero has a negative only among
floating-point numbers. -/
def integer (negative : Bool) (significand : Nat) : Number :=
  if negative then
    if 0 < significand ∧ significand ≤ Nat.pow 2 63 then .negative significand
    else signed true significand.toUInt64.toFloat
  else .natural significand

def readTail (negative : Bool) (significand lost : Nat) (cursor : Cursor) :
    Except Refusal (Number × Cursor) :=
  match cursor.rest with
  | '.' :: rest => readFraction negative significand lost ⟨cursor.offset + 1, rest⟩
  | 'e' :: _ => readScaled negative significand lost cursor
  | 'E' :: _ => readScaled negative significand lost cursor
  | _ =>
      if lost = 0 then .ok (integer negative significand, cursor)
      else scaled negative significand lost cursor

/-- Reads a number after its sign. A leading zero stands alone. -/
def readMagnitude (negative : Bool) : Reader Number := fun cursor =>
  match cursor.rest with
  | [] => .error (cursor.refuse .endInValue)
  | c :: rest =>
      if c = '0' then
        if startsWithDigit rest then .error ⟨.invalidNumber, cursor.offset + 2⟩
        else readTail negative 0 0 ⟨cursor.offset + 1, rest⟩
      else if isDigit c then
        let (significand, fitting) := fittingDigits 0 cursor.offset cursor.rest
        let (lost, after) := spareDigits 0 fitting.offset fitting.rest
        readTail negative significand lost after
      else .error ⟨.invalidNumber, cursor.offset + 1⟩

def passExponent (cursor : Cursor) : Except Refusal Cursor :=
  let cursor : Cursor := match cursor.rest with
    | '+' :: rest => ⟨cursor.offset + 1, rest⟩
    | '-' :: rest => ⟨cursor.offset + 1, rest⟩
    | _ => cursor
  if startsWithDigit cursor.rest then .ok (spareDigits 0 cursor.offset cursor.rest).2
  else .error (cursor.refuseNext .invalidNumber)

def passScale (cursor : Cursor) : Except Refusal Cursor :=
  match cursor.rest with
  | 'e' :: rest => passExponent ⟨cursor.offset + 1, rest⟩
  | 'E' :: rest => passExponent ⟨cursor.offset + 1, rest⟩
  | _ => .ok cursor

def passMagnitude (cursor : Cursor) : Except Refusal Cursor :=
  match cursor.rest with
  | [] => .error (cursor.refuse .invalidNumber)
  | c :: rest =>
      if c = '0' ∧ startsWithDigit rest = true then .error ⟨.invalidNumber, cursor.offset + 2⟩
      else if isDigit c then
        let after :=
          if c = '0' then ⟨cursor.offset + 1, rest⟩
          else (spareDigits 0 cursor.offset cursor.rest).2
        match after.rest with
        | '.' :: rest =>
            if startsWithDigit rest then
              passScale (spareDigits 0 (after.offset + 1) rest).2
            else .error (Cursor.refuseNext ⟨after.offset + 1, rest⟩ .invalidNumber)
        | _ => passScale after
      else .error ⟨.invalidNumber, cursor.offset + 1⟩

end Retirement.Json
