import RouteTable.Text.Property
import RouteTable.Text.Added

/-!
Texts in double quotes, as messages show them: characters that would not be seen are escaped.
-/

namespace RouteTable.Text

/-- The letters of Hangul that stand for a missing one. -/
def fillerPoints : CodePoints :=
  .ofNumerals [0x00115F_001160, 0x003164_003164, 0x00FFA0_00FFA0]

/-- The characters that are seen on their own: letters, marks, numerals, punctuation and symbols,
but no fillers and no marks that are drawn together with the character before them. -/
def visiblePoints : CodePoints :=
  (CodePoints.unions
      [letterPoints, markPoints, numberPoints, punctuationPoints, symbolPoints,
       addedPoints]).difference
    (.unions
      [fillerPoints, graphemeExtendPoints.difference letterPoints, addedExtendingPoints])

/-- Whether a character is seen on its own. Of the spaces, only the one of ASCII is. -/
def isVisible (c : Char) : Bool :=
  if c.toNat < 0x80 then 0x20 ≤ c.toNat && c.toNat < 0x7F else visiblePoints.holds c.toNat

def quotedChar (c : Char) : List Char :=
  match c with
  | '\x00' => ['\\', '0']
  | '\t' => ['\\', 't']
  | '\n' => ['\\', 'n']
  | '\r' => ['\\', 'r']
  | '"' => ['\\', '"']
  | '\\' => ['\\', '\\']
  | _ =>
    if isVisible c then [c]
    else ['\\', 'u', '{'] ++ Nat.toDigits 16 c.toNat ++ ['}']

def quotedText (text : String) : String :=
  String.ofList ('"' :: text.toList.flatMap quotedChar ++ ['"'])

end RouteTable.Text
