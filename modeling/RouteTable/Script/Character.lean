import RouteTable.Text.Alphabetic
import RouteTable.Text.Blank

/-!
The classes of characters that the tokens of a script are made of.
-/

namespace RouteTable.Script

open Text

def isLineTerminator (c : Char) : Bool :=
  c == '\n' || c == '\r' || c == '\u2028' || c == '\u2029'

/-- Characters between tokens: white space, line ends and the byte order mark. -/
def isSpacing (c : Char) : Bool :=
  isLineTerminator c || isBlank c || c == '\uFEFF'

/-- Characters that start a name. A backslash does, because a name may start with an escape. -/
def isNameStart (c : Char) : Bool :=
  c == '$' || c == '_' || c == '\\' || isAlphabetic c

/-- Characters that a name goes on with, escapes apart. The joiners count, and combining marks do
not unless they are alphabetic. -/
def isNamePart (c : Char) : Bool :=
  c == '$' || c == '_' || isAlphanumeric c || c == '\u200C' || c == '\u200D'

/-- Characters of the names of elements and attributes. -/
def isTagNamePart (c : Char) : Bool :=
  isNamePart c || c == '-' || c == '.' || c == ':'

/-- A backslash is the only character that starts a name and cannot stand in a tag's name. -/
theorem isTagNamePart_of_isNameStart {c : Char} (h : isNameStart c = true) (hc : c ≠ '\\') :
    isTagNamePart c = true := by
  simp only [isNameStart, Bool.or_eq_true, beq_iff_eq] at h
  rcases h with ((h | h) | h) | h
  · simp [isTagNamePart, isNamePart, h]
  · simp [isTagNamePart, isNamePart, h]
  · exact absurd h hc
  · simp [isTagNamePart, isNamePart, isAlphanumeric_of_isAlphabetic h]

end RouteTable.Script
