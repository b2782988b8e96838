import RouteTable.Script.Token
import RouteTable.Text.Hexadecimal

/-!
Escapes that give a character by its code point: `\uXXXX` and `\u{X…}` in names and strings, and
`\xXX` in strings.
-/

namespace RouteTable.Script

/-- The character whose code point the digits spell, unless it is none. -/
def characterOfDigits? (digits : List Char) : Option Char :=
  match Text.hexadecimal? digits with
  | some n => if h : n.isValidChar then some (Char.ofNatAux n h) else none
  | none => none

/-- Reads the digits after `\u`. Braced digits go on to the closing brace or to the end of the
text; without braces they are the next four characters, whatever these are. -/
def unicodeDigits (cursor : Cursor) : List Char × Cursor :=
  if cursor.startsWith ['{'] then
    let inner := cursor.next
    (inner.takeWhile (· != '}'), (inner.skipWhile (· != '}')).next)
  else
    (cursor.rest.take 4, cursor.advance 4)

/-- Reads a `\u` escape from its backslash on. Errors point at the backslash. -/
def unicodeEscape (cursor : Cursor) : Except LexicalError (Char × Cursor) :=
  if cursor.next.startsWith ['u'] then
    let (digits, after) := unicodeDigits (cursor.advance 2)
    match characterOfDigits? digits with
    | some c => .ok (c, after)
    | none => .error ⟨cursor.position, .invalidUnicodeEscape⟩
  else
    .error ⟨cursor.position, .invalidNameEscape⟩

/-- Reads the two digits after `\x`. The error points past them. -/
def hexadecimalEscape (cursor : Cursor) : Except LexicalError (Char × Cursor) :=
  let after := cursor.advance 2
  match characterOfDigits? (cursor.rest.take 2) with
  | some c => .ok (c, after)
  | none => .error ⟨after.position, .invalidHexadecimalEscape⟩

theorem remaining_unicodeDigits_le (cursor : Cursor) :
    (unicodeDigits cursor).2.remaining ≤ cursor.remaining := by
  unfold unicodeDigits
  split
  · have h := Cursor.remaining_skipWhile_le (· != '}') cursor.next
    simp only [Cursor.remaining_next] at h ⊢
    omega
  · simp only [Cursor.remaining_advance]
    omega

theorem remaining_unicodeEscape_lt {cursor after : Cursor} {c : Char}
    (h : unicodeEscape cursor = .ok (c, after)) : after.remaining < cursor.remaining := by
  unfold unicodeEscape at h
  split at h
  · rename_i hu
    have hle := remaining_unicodeDigits_le (cursor.advance 2)
    have hpos : 0 < cursor.remaining := by
      rcases cursor with ⟨p, _ | ⟨x, s⟩⟩
      · simp [Cursor.next, Cursor.startsWith] at hu
      · simp [Cursor.remaining]
    rw [Cursor.remaining_advance] at hle
    dsimp only at h
    split at h
    · simp only [Except.ok.injEq, Prod.mk.injEq] at h
      rw [← h.2]
      omega
    · cases h
  · cases h

theorem remaining_hexadecimalEscape_le {cursor after : Cursor} {c : Char}
    (h : hexadecimalEscape cursor = .ok (c, after)) : after.remaining ≤ cursor.remaining := by
  unfold hexadecimalEscape at h
  dsimp only at h
  split at h
  · simp only [Except.ok.injEq, Prod.mk.injEq] at h
    rw [← h.2, Cursor.remaining_advance]
    omega
  · cases h

end RouteTable.Script
