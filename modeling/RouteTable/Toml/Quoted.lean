import RouteTable.Text.Hexadecimal
import RouteTable.Toml.Value

/-!
Strings of TOML: in single quotes everything stands for itself, in double quotes a backslash starts
an escape. In three quotes a string may have line breaks.
-/

namespace RouteTable.Toml

open Text

def isTextChar (c : Char) : Bool :=
  c == '\t' || (0x20 ≤ c.toNat && c.toNat != 0x7F)

def isSpace (c : Char) : Bool :=
  c == ' ' || c == '\t'

def isSpaceOrBreak (c : Char) : Bool :=
  isSpace c || c == '\n' || c == '\r'

def afterBreak? : List Char → Option (List Char)
  | '\n' :: rest => some rest
  | '\r' :: '\n' :: rest => some rest
  | _ => none

def codePoint? (digits : List Char) : Option Char := do
  let n ← hexadecimalFrom? 0 digits
  if h : n.isValidChar then some (Char.ofNatAux n h) else none

/-- Reads a code point of so many digits. -/
def readCodePoint (count : Nat) (text : List Char) : Option (Char × List Char) :=
  if text.length < count then none
  else (codePoint? (text.take count)).map (·, text.drop count)

/-- Reads what follows the backslash of an escape. -/
def readEscape : List Char → Option (Char × List Char)
  | 'b' :: rest => some ('\x08', rest)
  | 't' :: rest => some ('\t', rest)
  | 'n' :: rest => some ('\n', rest)
  | 'f' :: rest => some ('\x0c', rest)
  | 'r' :: rest => some ('\r', rest)
  | 'e' :: rest => some ('\x1b', rest)
  | '"' :: rest => some ('"', rest)
  | '\\' :: rest => some ('\\', rest)
  | 'x' :: rest => readCodePoint 2 rest
  | 'u' :: rest => readCodePoint 4 rest
  | 'U' :: rest => readCodePoint 8 rest
  | _ => none

theorem length_readEscape_lt {text : List Char} {result : Char × List Char}
    (h : readEscape text = some result) : result.2.length < text.length := by
  have hpoint : ∀ {count : Nat} {rest : List Char} {result : Char × List Char},
      readCodePoint count rest = some result → result.2.length < rest.length + 1 := by
    intro count rest result h
    unfold readCodePoint at h
    split at h
    · cases h
    · obtain ⟨c, _, rfl⟩ := Option.map_eq_some_iff.1 h
      simp only [List.length_drop]
      omega
  unfold readEscape at h
  split at h <;> first | cases h | exact hpoint h
  all_goals simp

/-- Reads a string in double quotes, after the first. -/
def readBasic (text : List Char) : Option (List Char × List Char) :=
  match text with
  | [] => none
  | '"' :: rest => some ([], rest)
  | '\\' :: rest =>
    match _h : readEscape rest with
    | some (c, after) => (readBasic after).map fun (s, rest) => (c :: s, rest)
    | none => none
  | c :: rest =>
    if isTextChar c then (readBasic rest).map fun (s, rest) => (c :: s, rest) else none
termination_by text.length
decreasing_by
  · have := length_readEscape_lt _h
    simp only [List.length_cons] at this ⊢
    omega
  · simp

/-- Reads a string in single quotes, after the first. -/
def readLiteral (text : List Char) : Option (List Char × List Char) :=
  match text with
  | [] => none
  | '\'' :: rest => some ([], rest)
  | c :: rest =>
    if isTextChar c then (readLiteral rest).map fun (s, rest) => (c :: s, rest) else none

/-- Reads the quotes at the end of a string in three quotes. Up to two of them belong to the
string. -/
def readQuotesAtEnd (quote : Char) (text : List Char) : Option (List Char × List Char) :=
  let count := (text.takeWhile (· == quote)).length
  if 3 ≤ count then some (List.replicate (min count 5 - 3) quote, text.drop (min count 5)) else none

/-- The text after a backslash that ends its line, and after all space and breaks there. -/
def afterFoldedBreak? (text : List Char) : Option (List Char) :=
  if (afterBreak? (text.dropWhile isSpace)).isSome then some (text.dropWhile isSpaceOrBreak)
  else none

theorem length_afterFoldedBreak?_le {text rest : List Char}
    (h : afterFoldedBreak? text = some rest) : rest.length ≤ text.length := by
  unfold afterFoldedBreak? at h
  split at h
  · cases h
    exact (List.dropWhile_sublist _).length_le
  · cases h

/-- Reads a string in three double quotes, after the first three. -/
def readLongBasic (text : List Char) : Option (List Char × List Char) :=
  match readQuotesAtEnd '"' text with
  | some result => some result
  | none =>
    match text with
    | [] => none
    | '\\' :: rest =>
      match _hfold : afterFoldedBreak? rest with
      | some after => readLongBasic after
      | none =>
        match _hescape : readEscape rest with
        | some (c, after) => (readLongBasic after).map fun (s, rest) => (c :: s, rest)
        | none => none
    | c :: rest =>
      if isTextChar c || (afterBreak? (c :: rest)).isSome
      then (readLongBasic rest).map fun (s, rest) => (c :: s, rest)
      else none
termination_by text.length
decreasing_by
  · have := length_afterFoldedBreak?_le _hfold
    simp only [List.length_cons]
    omega
  · have := length_readEscape_lt _hescape
    simp only [List.length_cons] at this ⊢
    omega
  · simp

/-- Reads a string in three single quotes, after the first three. -/
def readLongLiteral (text : List Char) : Option (List Char × List Char) :=
  match readQuotesAtEnd '\'' text with
  | some result => some result
  | none =>
    match text with
    | [] => none
    | c :: rest =>
      if isTextChar c || (afterBreak? (c :: rest)).isSome then
        (readLongLiteral rest).map fun (s, rest) => (c :: s, rest)
      else none

def withoutFirstBreak (text : List Char) : List Char :=
  (afterBreak? text).getD text

def readString : List Char → Option (List Char × List Char)
  | '"' :: '"' :: '"' :: rest => readLongBasic (withoutFirstBreak rest)
  | '\'' :: '\'' :: '\'' :: rest => readLongLiteral (withoutFirstBreak rest)
  | '"' :: rest => readBasic rest
  | '\'' :: rest => readLiteral rest
  | _ => none

/-- Reads a string without line breaks. -/
def readShortString : List Char → Option (List Char × List Char)
  | '"' :: rest => readBasic rest
  | '\'' :: rest => readLiteral rest
  | _ => none

end RouteTable.Toml
