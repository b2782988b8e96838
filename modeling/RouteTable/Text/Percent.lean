import RouteTable.Text.Hexadecimal
import RouteTable.Text.Utf8

/-!
Percent encoding: bytes that are written as themselves, and bytes that are written as a percent sign
and two hexadecimal digits in upper case.
-/

namespace RouteTable.Text.Percent

def encodeByte (b : UInt8) : List Char :=
  ['%', upperHexadecimalDigit (b.toNat / 16), upperHexadecimalDigit (b.toNat % 16)]

/-- Whether a byte is a printing character of ASCII, or a space. -/
def isPrinting (b : UInt8) : Bool :=
  0x20 ≤ b && b < 0x7F

/-- Writes the printing bytes as themselves, except those of the characters in `escaped`. -/
def encode (escaped : List Char) (bytes : List UInt8) : List Char :=
  bytes.flatMap fun b =>
    let c := Char.ofNat b.toNat
    if isPrinting b && !escaped.contains c then [c] else encodeByte b

def encodeText (escaped : List Char) (text : List Char) : List Char :=
  encode escaped (Utf8.encode text)

/-- The bytes of a text, with the byte of each percent sign that two digits follow. -/
def decode : List Char → List UInt8
  | [] => []
  | '%' :: a :: b :: rest =>
    match hexadecimalDigit? a, hexadecimalDigit? b with
    | some high, some low => UInt8.ofNat (16 * high + low) :: decode rest
    | _, _ => Utf8.encode ['%'] ++ decode (a :: b :: rest)
  | c :: rest => Utf8.encode [c] ++ decode rest

end RouteTable.Text.Percent
