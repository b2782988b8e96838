import RouteTable.Text.Property
import RouteTable.Text.Added

/-!
Letters and numerals: the property `Alphabetic` and the general categories `Nd`, `Nl` and `No` of
Unicode 17.
-/

namespace RouteTable.Text

def letters : CodePoints := alphabeticPoints.union addedLetterPoints

def isAlphabetic (c : Char) : Bool :=
  if c.val < 0x80 then c.isAlpha else letters.holds c.toNat

/-- The digits, the numerals like letters and the other numerals. -/
def numerals : CodePoints := numberPoints.union addedNumeralPoints

def isNumeric (c : Char) : Bool :=
  if c.val < 0x80 then c.isDigit else numerals.holds c.toNat

def isAlphanumeric (c : Char) : Bool :=
  isAlphabetic c || isNumeric c

theorem isAlphanumeric_of_isAlphabetic {c : Char} (h : isAlphabetic c = true) :
    isAlphanumeric c = true := by
  simp [isAlphanumeric, h]

end RouteTable.Text
