import RouteTable.Script.Token

/-!
What stands between tokens: white space, line ends and comments. A hashbang line may stand at the
start of the text.
-/

namespace RouteTable.Script

/-- Reads the rest of a block comment that was opened at `opened`, and tells whether a line ended
in it or before it. -/
def blockComment (opened : Position) (lineEnded : Bool) (p : Position) :
    List Char → Except LexicalError (Bool × Cursor)
  | [] => .error ⟨opened, .unterminatedComment⟩
  | c :: s =>
    if ['*', '/'].isPrefixOf (c :: s) then .ok (lineEnded, Cursor.advance 2 ⟨p, c :: s⟩)
    else blockComment opened (lineEnded || isLineTerminator c) (p.step c s) s

theorem remaining_blockComment_le {opened p : Position} {lineEnded : Bool} {s : List Char}
    {result : Bool × Cursor} (h : blockComment opened lineEnded p s = .ok result) :
    result.2.remaining ≤ s.length := by
  induction s generalizing lineEnded p with
  | nil => simp [blockComment] at h
  | cons c s ih =>
    unfold blockComment at h
    split at h
    · simp only [Except.ok.injEq] at h
      rw [← h, Cursor.remaining_advance, Cursor.remaining]
      exact Nat.sub_le _ _
    · exact Nat.le_succ_of_le (ih h)

/-- Passes spacing and comments, and tells whether a line ended in them or before. A line comment
goes on up to the end of its line. -/
def skipSpacing (lineEnded : Bool) (cursor : Cursor) : Except LexicalError (Bool × Cursor) :=
  match _hs : cursor.rest with
  | [] => .ok (lineEnded, cursor)
  | c :: s =>
    if isSpacing c then
      skipSpacing (lineEnded || isLineTerminator c) cursor.next
    else if _hl : cursor.startsWith ['/', '/'] then
      skipSpacing lineEnded (cursor.skipWhile (!isLineTerminator ·))
    else if cursor.startsWith ['/', '*'] then
      match _hb : blockComment cursor.position lineEnded (cursor.advance 2).position s.tail with
      | .ok (ended, after) => skipSpacing ended after
      | .error e => .error e
    else
      .ok (lineEnded, cursor)
termination_by cursor.remaining
decreasing_by
  · exact Cursor.remaining_next_lt _hs
  · refine Cursor.remaining_skipWhile_lt _hs ?_
    simp only [Cursor.startsWith, _hs, List.isPrefixOf, Bool.and_eq_true, beq_iff_eq] at _hl
    rw [← _hl.1]
    decide
  · have h := remaining_blockComment_le _hb
    simp only [List.length_tail] at h
    simp only [Cursor.remaining, _hs, List.length_cons] at h ⊢
    omega

theorem remaining_skipSpacing_le {lineEnded : Bool} {cursor : Cursor} {result : Bool × Cursor}
    (h : skipSpacing lineEnded cursor = .ok result) : result.2.remaining ≤ cursor.remaining := by
  fun_induction skipSpacing lineEnded cursor with
  | case1 => cases h; exact Nat.le_refl _
  | case2 ended cursor c s hs hc ih =>
    exact Nat.le_trans (ih h) (by rw [Cursor.remaining_next]; omega)
  | case3 ended cursor c s hs hc hl ih =>
    exact Nat.le_trans (ih h) (Cursor.remaining_skipWhile_le _ _)
  | case4 ended cursor c s hs hc hl hb ended' after hbc ih =>
    have hle := remaining_blockComment_le hbc
    refine Nat.le_trans (ih h) ?_
    simp only [List.length_tail, Cursor.remaining, hs, List.length_cons] at hle ⊢
    omega
  | case5 => cases h
  | case6 => cases h; exact Nat.le_refl _

/-- A result of reading from a cursor, with the cursor it leaves. -/
abbrev Within (cursor : Cursor) (α : Type) : Type :=
  { result : α × Cursor // result.2.remaining ≤ cursor.remaining }

def spacing (cursor : Cursor) : Except LexicalError (Within cursor Bool) :=
  match h : skipSpacing false cursor with
  | .ok result => .ok ⟨result, remaining_skipSpacing_le h⟩
  | .error e => .error e

/-- Passes a hashbang line, if the text starts with one. -/
def skipInterpreterLine (cursor : Cursor) : Cursor :=
  if cursor.startsWith ['#', '!'] then cursor.skipWhile (!isLineTerminator ·) else cursor

end RouteTable.Script
