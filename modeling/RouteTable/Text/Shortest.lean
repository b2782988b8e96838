/-!
The shortest decimal that a floating-point number is the nearest to, written without an exponent.
-/

namespace RouteTable.Text.Shortest

/-- A positive finite number, `significand * 2 ^ exponent`. The number below it is at half the
distance of the one above it, if `narrow`. -/
structure Binary where
  significand : Nat
  exponent : Int
  narrow : Bool

def Binary.ofBits (bits : UInt64) : Binary :=
  let exponent := (bits >>> 52 &&& 0x7FF).toNat
  let fraction := (bits &&& 0xFFFFFFFFFFFFF).toNat
  if exponent = 0 then ⟨fraction, -1074, false⟩
  else ⟨0x10000000000000 + fraction, exponent - 1075, fraction = 0 ∧ 1 < exponent⟩

namespace Binary

/-- The distance of the number above. -/
def unit (x : Binary) : Rat := 2 ^ x.exponent

def value (x : Binary) : Rat := x.significand * x.unit

/-- Whether a decimal is read as the number: it lies within half a distance of it, and at the ends
only if the significand is even. -/
def isReadFrom (x : Binary) (decimal : Rat) : Bool :=
  let low := x.value - x.unit / (if x.narrow then 4 else 2)
  let high := x.value + x.unit / 2
  if x.significand % 2 = 0 then low ≤ decimal && decimal ≤ high
  else low < decimal && decimal < high

/-- The decimal of a multiple of `grid` that is read as the number: the nearer one, if both
neighbours are, and the one above, if both are as near. -/
def onGrid? (x : Binary) (grid : Rat) : Option Nat :=
  let below := (x.value / grid).floor.toNat
  let low := x.isReadFrom (below * grid)
  let high := x.isReadFrom ((below + 1 : Nat) * grid)
  let belowIsNearer := x.value - below * grid < (below + 1 : Nat) * grid - x.value
  if low && (!high || belowIsNearer) then some below
  else if high then some (below + 1)
  else none

/-- The digits and the power of ten of the shortest decimal, with the powers from `power` down. -/
def shortestFrom (x : Binary) (power : Int) : Nat → Nat × Int
  | 0 => (0, 0)
  | count + 1 =>
    match x.onGrid? (10 ^ power) with
    | some digits => (digits, power)
    | none => x.shortestFrom (power - 1) count

/-- The powers of ten that the last digit of a shortest decimal can have are at most 308 and at
least -324. -/
def shortest (x : Binary) : Nat × Int :=
  x.shortestFrom 309 650

end Binary

/-- Digits with a point at the place that the power of ten gives it. One digit at least stands on
each side of the point. -/
def positional (digits : Nat) (power : Int) : String :=
  let text := (toString digits).toList
  match power with
  | .ofNat n => String.ofList (text ++ List.replicate n '0' ++ ['.', '0'])
  | .negSucc n =>
    let places := n + 1
    let padded := List.replicate (places + 1 - text.length) '0' ++ text
    let whole := padded.length - places
    String.ofList (padded.take whole ++ '.' :: padded.drop whole)

def text (x : Float) : String :=
  let magnitude := x.toBits &&& 0x7FFFFFFFFFFFFFFF
  let sign := if x.toBits = magnitude then "" else "-"
  if 0x7FF0000000000000 < magnitude then "NaN"
  else if magnitude = 0x7FF0000000000000 then sign ++ "inf"
  else if magnitude = 0 then sign ++ "0.0"
  else
    let (digits, power) := (Binary.ofBits magnitude).shortest
    sign ++ positional digits power

end RouteTable.Text.Shortest
