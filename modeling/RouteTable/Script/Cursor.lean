import RouteTable.Script.Character

/-!
A place in the text of a script: the text that is left and the line and column of its first
character. Lines end at any line terminator, and a carriage return with a line feed after it is
one end of line.
-/

namespace RouteTable.Script

/-- A line and a column, both counted from one, in characters. -/
structure Position where
  line : Nat
  column : Nat
deriving DecidableEq, Inhabited

namespace Position

def start : Position := ⟨1, 1⟩

/-- The position after the character `c`, when the text goes on with `rest`. -/
def step (p : Position) (c : Char) (rest : List Char) : Position :=
  if isLineTerminator c then
    if c == '\r' && rest.head? == some '\n' then p else ⟨p.line + 1, 1⟩
  else
    ⟨p.line, p.column + 1⟩

end Position

structure Cursor where
  position : Position
  rest : List Char

namespace Cursor

def start (source : String) : Cursor :=
  ⟨.start, source.toList⟩

def remaining (cursor : Cursor) : Nat :=
  cursor.rest.length

def next : Cursor → Cursor
  | ⟨p, []⟩ => ⟨p, []⟩
  | ⟨p, c :: s⟩ => ⟨p.step c s, s⟩

def advance : Nat → Cursor → Cursor
  | 0, cursor => cursor
  | n + 1, cursor => advance n cursor.next

/-- Passes the characters of a class from position `p` of a text. -/
def skipFrom (holds : Char → Bool) (p : Position) : List Char → Cursor
  | [] => ⟨p, []⟩
  | c :: s => if holds c then skipFrom holds (p.step c s) s else ⟨p, c :: s⟩

/-- Passes the characters of a class up to the first that is not in it. -/
def skipWhile (holds : Char → Bool) (cursor : Cursor) : Cursor :=
  skipFrom holds cursor.position cursor.rest

/-- The characters that `skipWhile` passes. -/
def takeWhile (holds : Char → Bool) (cursor : Cursor) : List Char :=
  cursor.rest.takeWhile holds

def startsWith (cursor : Cursor) (text : List Char) : Bool :=
  text.isPrefixOf cursor.rest

@[simp] theorem rest_next (cursor : Cursor) : cursor.next.rest = cursor.rest.tail := by
  rcases cursor with ⟨p, _ | ⟨c, s⟩⟩ <;> rfl

@[simp] theorem rest_advance (n : Nat) (cursor : Cursor) :
    (cursor.advance n).rest = cursor.rest.drop n := by
  induction n generalizing cursor with
  | zero => rfl
  | succ n ih => simp [advance, ih]

@[simp] theorem rest_skipFrom (holds : Char → Bool) (p : Position) (s : List Char) :
    (skipFrom holds p s).rest = s.dropWhile holds := by
  induction s generalizing p with
  | nil => rfl
  | cons c s ih => by_cases h : holds c = true <;> simp [skipFrom, h, ih]

@[simp] theorem rest_skipWhile (holds : Char → Bool) (cursor : Cursor) :
    (cursor.skipWhile holds).rest = cursor.rest.dropWhile holds := by
  simp [skipWhile]

theorem remaining_next (cursor : Cursor) : cursor.next.remaining = cursor.remaining - 1 := by
  simp [remaining]

theorem remaining_next_lt {cursor : Cursor} {c : Char} {s : List Char}
    (hs : cursor.rest = c :: s) : cursor.next.remaining < cursor.remaining := by
  simp [remaining, hs]

theorem remaining_advance (n : Nat) (cursor : Cursor) :
    (cursor.advance n).remaining = cursor.remaining - n := by
  simp [remaining]

theorem remaining_skipWhile_le (holds : Char → Bool) (cursor : Cursor) :
    (cursor.skipWhile holds).remaining ≤ cursor.remaining := by
  simpa [remaining] using (List.dropWhile_sublist holds (l := cursor.rest)).length_le

/-- A class that holds the first character left is passed with progress. -/
theorem remaining_skipWhile_lt {holds : Char → Bool} {cursor : Cursor} {c : Char} {s : List Char}
    (hs : cursor.rest = c :: s) (hc : holds c = true) :
    (cursor.skipWhile holds).remaining < cursor.remaining := by
  have h := (List.dropWhile_sublist holds (l := s)).length_le
  simp [remaining, hs, hc]
  omega

end Cursor

end RouteTable.Script
