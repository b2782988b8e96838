import RouteTable.Script.Escape

/-!
The tokens whose text holds no other tokens: names, numbers, strings, regular expressions and
punctuators.
-/

namespace RouteTable.Script

/-- Reads a name, or the rest of one, and gives its decoded text. -/
def readName (cursor : Cursor) : Except LexicalError (List Char × Cursor) :=
  match _hs : cursor.rest with
  | [] => .ok ([], cursor)
  | c :: _ =>
    if c == '\\' then
      match _hu : unicodeEscape cursor with
      | .ok (decoded, after) =>
        match readName after with
        | .ok (name, last) => .ok (decoded :: name, last)
        | .error e => .error e
      | .error e => .error e
    else if isNamePart c then
      match readName cursor.next with
      | .ok (name, last) => .ok (c :: name, last)
      | .error e => .error e
    else
      .ok ([], cursor)
termination_by cursor.remaining
decreasing_by
  · exact remaining_unicodeEscape_lt _hu
  · exact Cursor.remaining_next_lt _hs

theorem remaining_readName_le {cursor after : Cursor} {name : List Char}
    (h : readName cursor = .ok (name, after)) : after.remaining ≤ cursor.remaining := by
  fun_induction readName cursor generalizing name after with
  | case1 => cases h; exact Nat.le_refl _
  | case2 cursor c s hs hc decoded mid hu name' last hrec ih =>
    cases h
    exact Nat.le_of_lt (Nat.lt_of_le_of_lt (ih hrec) (remaining_unicodeEscape_lt hu))
  | case3 => cases h
  | case4 => cases h
  | case5 cursor c s hs hc hp name' last hrec ih =>
    cases h
    refine Nat.le_trans (ih hrec) ?_
    rw [Cursor.remaining_next]
    exact Nat.sub_le _ _
  | case6 => cases h
  | case7 => cases h; exact Nat.le_refl _

/-- A name that starts with a name's first character is read with progress. -/
theorem remaining_readName_lt {cursor after : Cursor} {name : List Char} {c : Char}
    {s : List Char} (hs : cursor.rest = c :: s) (hc : isNameStart c = true)
    (h : readName cursor = .ok (name, after)) : after.remaining < cursor.remaining := by
  unfold readName at h
  split at h
  · rename_i hnil
    rw [hs] at hnil
    cases hnil
  · rename_i d t ht
    rw [hs] at ht
    obtain ⟨rfl, rfl⟩ := List.cons.inj ht
    split at h
    · split at h
      · rename_i hu
        split at h
        · rename_i hrec
          cases h
          exact Nat.lt_of_le_of_lt (remaining_readName_le hrec) (remaining_unicodeEscape_lt hu)
        · cases h
      · cases h
    · rename_i hb
      split at h
      · split at h
        · rename_i hrec
          cases h
          exact Nat.lt_of_le_of_lt (remaining_readName_le hrec) (Cursor.remaining_next_lt hs)
        · cases h
      · rename_i hp
        simp only [isNameStart, isNamePart, Text.isAlphanumeric, Bool.or_eq_true,
          beq_iff_eq] at hc hp hb
        simp_all

def isNumberPart (c : Char) : Bool :=
  c.isAlphanum || c == '_' || c == '.'

/-- The rest of a number after the character `previous`. A sign belongs to the number after an
exponent's letter, unless the number is hexadecimal. -/
def numberTail (hexadecimal : Bool) (previous : Char) : List Char → List Char
  | [] => []
  | c :: s =>
    if isNumberPart c ||
        ((c == '+' || c == '-') && (previous == 'e' || previous == 'E') && !hexadecimal) then
      c :: numberTail hexadecimal c s
    else
      []

def numberText : List Char → List Char
  | [] => []
  | c :: s => c :: numberTail (c == '0' && (s.head? == some 'x' || s.head? == some 'X')) c s

/-- Whether a text starts with a number: a digit, or a point before a digit. -/
def startsNumber : List Char → Bool
  | [] => false
  | c :: s => c.isDigit || (c == '.' && s.head?.any Char.isDigit)

/-- The character that a backslash and `c` stand for in a string, when `c` is no digit of an
escape by code point and ends no line. -/
def simpleEscape (c : Char) : Char :=
  match c with
  | 'n' => '\n'
  | 't' => '\t'
  | 'r' => '\r'
  | 'b' => '\x08'
  | 'f' => '\x0c'
  | 'v' => '\x0b'
  | '0' => '\x00'
  | c => c

/-- Reads the escape in a string whose backslash is under the cursor. A line end after the
backslash stands for nothing. Where no code point can be read, errors point at it, and where the
text ends, at the string's start. -/
def stringEscape (opened : Position) (cursor : Cursor) :
    Except LexicalError (List Char × Cursor) :=
  match cursor.next.rest with
  | [] => .error ⟨opened, .unterminatedString⟩
  | c :: s =>
    let after := cursor.advance 2
    if c == 'u' then
      match unicodeEscape cursor with
      | .ok (decoded, last) => .ok ([decoded], last)
      | .error e => .error e
    else if c == 'x' then
      match hexadecimalEscape after with
      | .ok (decoded, last) => .ok ([decoded], last)
      | .error e => .error e
    else if isLineTerminator c then
      .ok ([], if c == '\r' && s.head? == some '\n' then after.next else after)
    else
      .ok ([simpleEscape c], after)

theorem remaining_stringEscape_lt {opened : Position} {cursor after : Cursor}
    {decoded : List Char} (h : stringEscape opened cursor = .ok (decoded, after)) :
    after.remaining < cursor.remaining := by
  unfold stringEscape at h
  split at h
  · cases h
  · rename_i c s hs
    have hlen : cursor.remaining - 1 = s.length + 1 := by
      rw [← Cursor.remaining_next, Cursor.remaining, hs, List.length_cons]
    have hadv := Cursor.remaining_advance 2 cursor
    dsimp only at h
    split at h
    · split at h
      · rename_i hu
        cases h
        exact remaining_unicodeEscape_lt hu
      · cases h
    · split at h
      · split at h
        · rename_i hx
          cases h
          have := remaining_hexadecimalEscape_le hx
          omega
        · cases h
      · split at h
        · cases h
          split
          · rw [Cursor.remaining_next]
            omega
          · omega
        · cases h
          omega

/-- Reads a string after its opening quote, up to and over the closing one. -/
def readStringLiteral (quote : Char) (opened : Position) (cursor : Cursor) :
    Except LexicalError (List Char × Cursor) :=
  match _hs : cursor.rest with
  | [] => .error ⟨opened, .unterminatedString⟩
  | c :: _ =>
    if isLineTerminator c then .error ⟨opened, .unterminatedString⟩
    else if c == quote then .ok ([], cursor.next)
    else if c == '\\' then
      match _he : stringEscape opened cursor with
      | .ok (decoded, after) =>
        match readStringLiteral quote opened after with
        | .ok (value, last) => .ok (decoded ++ value, last)
        | .error e => .error e
      | .error e => .error e
    else
      match readStringLiteral quote opened cursor.next with
      | .ok (value, last) => .ok (c :: value, last)
      | .error e => .error e
termination_by cursor.remaining
decreasing_by
  · exact remaining_stringEscape_lt _he
  · exact Cursor.remaining_next_lt _hs

theorem remaining_readStringLiteral_le {quote : Char} {opened : Position} {cursor after : Cursor}
    {value : List Char} (h : readStringLiteral quote opened cursor = .ok (value, after)) :
    after.remaining ≤ cursor.remaining := by
  fun_induction readStringLiteral quote opened cursor generalizing value after with
  | case1 => cases h
  | case2 => cases h
  | case3 => cases h; rw [Cursor.remaining_next]; omega
  | case4 cursor c s hs _ _ _ decoded mid he value' last hrec ih =>
    cases h
    exact Nat.le_of_lt (Nat.lt_of_le_of_lt (ih hrec) (remaining_stringEscape_lt he))
  | case5 => cases h
  | case6 => cases h
  | case7 cursor c s hs _ _ _ value' last hrec ih =>
    cases h
    exact Nat.le_trans (ih hrec) (by rw [Cursor.remaining_next]; omega)
  | case8 => cases h

/-- Reads the body of a regular expression that was opened at `opened`, up to and over the slash
that ends it. A slash in a class does not, nor one after a backslash. -/
def regexBody (opened : Position) (inClass escaped : Bool) (p : Position) :
    List Char → Except LexicalError Cursor
  | [] => .error ⟨opened, .unterminatedRegex⟩
  | c :: s =>
    if isLineTerminator c then .error ⟨opened, .unterminatedRegex⟩
    else if escaped then regexBody opened inClass false (p.step c s) s
    else if c == '\\' then regexBody opened inClass true (p.step c s) s
    else if c == '/' && !inClass then .ok ⟨p.step c s, s⟩
    else regexBody opened ((inClass || c == '[') && c != ']') false (p.step c s) s

theorem remaining_regexBody_le {opened p : Position} {inClass escaped : Bool} {s : List Char}
    {after : Cursor} (h : regexBody opened inClass escaped p s = .ok after) :
    after.remaining ≤ s.length := by
  induction s generalizing inClass escaped p with
  | nil => simp [regexBody] at h
  | cons c s ih =>
    unfold regexBody at h
    split at h
    · cases h
    · split at h
      · exact Nat.le_succ_of_le (ih h)
      · split at h
        · exact Nat.le_succ_of_le (ih h)
        · split at h
          · cases h
            exact Nat.le_succ _
          · exact Nat.le_succ_of_le (ih h)

def readRegularExpression (cursor : Cursor) : Except LexicalError Cursor :=
  match regexBody cursor.position false false cursor.next.position cursor.next.rest with
  | .ok body => .ok (body.skipWhile isNamePart)
  | .error e => .error e

theorem remaining_readRegularExpression_lt {cursor after : Cursor} {c : Char} {s : List Char}
    (hs : cursor.rest = c :: s) (h : readRegularExpression cursor = .ok after) :
    after.remaining < cursor.remaining := by
  unfold readRegularExpression at h
  split at h
  · rename_i body hb
    cases h
    have h1 := remaining_regexBody_le hb
    have h2 := Cursor.remaining_skipWhile_le isNamePart body
    simp only [Cursor.rest_next, hs, List.tail_cons] at h1
    simp only [Cursor.remaining, hs, List.length_cons] at *
    omega
  · cases h

/-- The punctuators of more than one character, longer ones first. -/
def longPunctuators : List (List Char) :=
  [['>', '>', '>', '='], ['.', '.', '.'], ['=', '=', '='], ['!', '=', '='], ['*', '*', '='],
   ['<', '<', '='], ['>', '>', '='], ['>', '>', '>'], ['&', '&', '='], ['|', '|', '='],
   ['?', '?', '='], ['=', '>'], ['=', '='], ['!', '='], ['<', '='], ['>', '='], ['&', '&'],
   ['|', '|'], ['?', '?'], ['?', '.'], ['+', '+'], ['-', '-'], ['+', '='], ['-', '='],
   ['*', '='], ['/', '='], ['%', '='], ['&', '='], ['|', '='], ['^', '='], ['<', '<'],
   ['>', '>'], ['*', '*']]

def shortPunctuators : List Char :=
  ['{', '}', '(', ')', '[', ']', ';', ',', '<', '>', '+', '-', '*', '/', '%', '&', '|', '^', '!',
   '~', '?', ':', '=', '.', '@']

/-- The punctuator that a text starts with: the longest there is. -/
def punctuator? : List Char → Option (List Char)
  | [] => none
  | c :: s =>
    match longPunctuators.find? (·.isPrefixOf (c :: s)) with
    | some text => some text
    | none => if shortPunctuators.contains c then some [c] else none

theorem punctuator?_pos {s text : List Char} (h : punctuator? s = some text) :
    0 < text.length ∧ 0 < s.length := by
  unfold punctuator? at h
  split at h
  · cases h
  · refine ⟨?_, Nat.succ_pos _⟩
    split at h
    · rename_i found hf
      cases h
      have hm := List.mem_of_find?_eq_some hf
      revert hm
      generalize text = t
      revert t
      decide
    · split at h
      · cases h
        exact Nat.one_pos
      · cases h

end RouteTable.Script
