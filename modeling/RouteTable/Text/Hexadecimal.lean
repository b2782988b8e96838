/-!
Hexadecimal numerals.
-/

namespace RouteTable.Text

def hexadecimalDigit? (c : Char) : Option Nat :=
  if '0' ≤ c ∧ c ≤ '9' then some (c.toNat - '0'.toNat)
  else if 'a' ≤ c ∧ c ≤ 'f' then some (c.toNat - 'a'.toNat + 10)
  else if 'A' ≤ c ∧ c ≤ 'F' then some (c.toNat - 'A'.toNat + 10)
  else none

/-- The value of the digits after those that gave `value`. -/
def hexadecimalFrom? (value : Nat) : List Char → Option Nat
  | [] => some value
  | c :: s => (hexadecimalDigit? c).bind fun d => hexadecimalFrom? (16 * value + d) s

/-- The value of a numeral of one digit or more. One plus sign may stand in front. -/
def hexadecimal? (text : List Char) : Option Nat :=
  let digits := if text.head? = some '+' then text.tail else text
  if digits.isEmpty then none else hexadecimalFrom? 0 digits

def upperHexadecimalDigit (value : Nat) : Char :=
  Char.ofNat (if value < 10 then '0'.toNat + value else 'A'.toNat + value - 10)

def lowerHexadecimalDigit (value : Nat) : Char :=
  Char.ofNat (if value < 10 then '0'.toNat + value else 'a'.toNat + value - 10)

end RouteTable.Text
