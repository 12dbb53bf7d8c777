/-!
JSON values. Integers of 64 bits are kept exactly; every other number is a floating-point number.
Objects keep their members in order, and may hold a name more than once.
-/

namespace Retirement.Json

inductive Number
  | natural (n : Nat)
  /-- The negative of a positive number. -/
  | negative (n : Nat)
  | float (x : Float)

inductive Value
  | null
  | bool (b : Bool)
  | number (n : Number)
  | string (s : String)
  | array (items : List Value)
  | object (members : List (String × Value))

def Value.nat (n : Nat) : Value := number (.natural n)

def Value.ofOption (encode : α → Value) : Option α → Value
  | none => null
  | some a => encode a

end Retirement.Json
