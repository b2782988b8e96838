import RouteTable.Proofs.Iteration
import RouteTable.Proofs.Script.Characterwise
import RouteTable.Script.Tokens

/-!
The loops of the readers that no script stands in, one turn after another: each turn leaves less
text, or is the last and gives what the reader reads.
-/

namespace RouteTable.Script

open Iteration

abbrev Collected := List Char × Cursor

def Collected.remaining (state : Collected) : Nat :=
  state.2.remaining

def passTurn (holds : Char → Bool) (cursor : Cursor) : Iteration Cursor Cursor :=
  match cursor.rest with
  | [] => .ends cursor
  | c :: _ => if holds c then .again cursor.next else .ends cursor

def collectTurn (holds : Char → Bool) (state : Collected) : Iteration Collected Collected :=
  match state.2.rest with
  | [] => .ends state
  | c :: _ => if holds c then .again (state.1 ++ [c], state.2.next) else .ends state

/-- A turn of the loop that collects the digits of an escape up to and over their closing brace. -/
def digitsTurn (state : Collected) : Iteration Collected Collected :=
  match state.2.rest with
  | [] => .ends state
  | c :: _ =>
    if c == '\x7d' then .ends (state.1, state.2.next)
    else .again (state.1 ++ [c], state.2.next)

/-- A turn of the loop that passes the quoted value of an attribute. -/
def quotedTurn (quote : Char) (opened : Position) (cursor : Cursor) :
    Iteration Cursor (Except LexicalError Cursor) :=
  match cursor.rest with
  | [] => .ends (.error ⟨opened, .unterminatedAttribute⟩)
  | c :: _ => if c == quote then .ends (.ok cursor.next) else .again cursor.next

def commentTurn (opened : Position) (state : Bool × Cursor) :
    Iteration (Bool × Cursor) (Except LexicalError (Bool × Cursor)) :=
  match state.2.rest with
  | [] => .ends (.error ⟨opened, .unterminatedComment⟩)
  | c :: _ =>
    if state.2.startsWith ['*', '/'] then .ends (.ok (state.1, state.2.advance 2))
    else .again (state.1 || isLineTerminator c, state.2.next)

def spacingTurn (state : Bool × Cursor) :
    Iteration (Bool × Cursor) (Except LexicalError (Bool × Cursor)) :=
  match state.2.rest with
  | [] => .ends (.ok state)
  | c :: s =>
    if isSpacing c then .again (state.1 || isLineTerminator c, state.2.next)
    else if state.2.startsWith ['/', '/'] then
      .again (state.1, state.2.skipWhile (!isLineTerminator ·))
    else if state.2.startsWith ['/', '*'] then
      match blockComment state.2.position state.1 (state.2.advance 2).position s.tail with
      | .ok next => .again next
      | .error e => .ends (.error e)
    else .ends (.ok state)

def nameTurn (state : Collected) : Iteration Collected (Except LexicalError Collected) :=
  match state.2.rest with
  | [] => .ends (.ok state)
  | c :: _ =>
    if c == '\\' then
      match unicodeEscape state.2 with
      | .ok (decoded, after) => .again (state.1 ++ [decoded], after)
      | .error e => .ends (.error e)
    else if isNamePart c then .again (state.1 ++ [c], state.2.next)
    else .ends (.ok state)

def startsHexadecimal (text : List Char) : Bool :=
  ['0', 'x'].isPrefixOf text || ['0', 'X'].isPrefixOf text

def numberTurn (state : Collected) : Iteration Collected Collected :=
  match state.2.rest with
  | [] => .ends state
  | c :: _ =>
    if isNumberPart c || ((c == '+' || c == '-') &&
        (state.1.getLast? == some 'e' || state.1.getLast? == some 'E') &&
        !startsHexadecimal state.1) then
      .again (state.1 ++ [c], state.2.next)
    else .ends state

def stringTurn (quote : Char) (opened : Position) (state : Collected) :
    Iteration Collected (Except LexicalError Collected) :=
  match state.2.rest with
  | [] => .ends (.error ⟨opened, .unterminatedString⟩)
  | c :: _ =>
    if isLineTerminator c then .ends (.error ⟨opened, .unterminatedString⟩)
    else if c == quote then .ends (.ok (state.1, state.2.next))
    else if c == '\\' then
      match stringEscape opened state.2 with
      | .ok (decoded, after) => .again (state.1 ++ decoded, after)
      | .error e => .ends (.error e)
    else .again (state.1 ++ [c], state.2.next)

/-- A turn of the loop that passes the body of a regular expression, within a class or not. -/
def regexTurn (opened : Position) (state : Bool × Cursor) :
    Iteration (Bool × Cursor) (Except LexicalError Cursor) :=
  match state.2.rest with
  | [] => .ends (.error ⟨opened, .unterminatedRegex⟩)
  | c :: s =>
    if isLineTerminator c then .ends (.error ⟨opened, .unterminatedRegex⟩)
    else if c == '\\' then
      if s.head?.any (!isLineTerminator ·) then .again (state.1, state.2.advance 2)
      else .ends (.error ⟨opened, .unterminatedRegex⟩)
    else if c == '/' && !state.1 then .ends (.ok state.2.next)
    else .again ((state.1 || c == '[') && c != ']', state.2.next)

section Passing

variable {p : Position} {c : Char} {s : List Char}

theorem remaining_next_cons :
    (Cursor.next ⟨p, c :: s⟩).remaining < (Cursor.mk p (c :: s)).remaining :=
  Cursor.remaining_next_lt rfl

theorem skipWhile_pos (holds : Char → Bool) (hc : holds c = true) :
    Cursor.skipWhile holds ⟨p, c :: s⟩ = Cursor.skipWhile holds (Cursor.next ⟨p, c :: s⟩) := by
  rw [Cursor.skipWhile, Cursor.skipFrom, if_pos hc]
  rfl

theorem skipWhile_neg (holds : Char → Bool) (hc : ¬ holds c = true) :
    Cursor.skipWhile holds ⟨p, c :: s⟩ = ⟨p, c :: s⟩ := by
  rw [Cursor.skipWhile, Cursor.skipFrom, if_neg hc]

theorem takeWhile_pos (holds : Char → Bool) (hc : holds c = true) :
    Cursor.takeWhile holds ⟨p, c :: s⟩ = c :: Cursor.takeWhile holds (Cursor.next ⟨p, c :: s⟩) :=
  List.takeWhile_cons_of_pos hc

theorem takeWhile_neg (holds : Char → Bool) (hc : ¬ holds c = true) :
    Cursor.takeWhile holds ⟨p, c :: s⟩ = [] :=
  List.takeWhile_cons_of_neg hc

theorem progresses_passTurn (holds : Char → Bool) :
    Progresses (passTurn holds) Cursor.remaining (Cursor.skipWhile holds) where
  lowers := by
    rintro ⟨p, _ | ⟨c, s⟩⟩
    · trivial
    · rw [passTurn]
      dsimp only
      split
      · exact remaining_next_cons
      · trivial
  keeps := by
    rintro ⟨p, _ | ⟨c, s⟩⟩
    · rfl
    · rw [passTurn]
      dsimp only
      split
      · rename_i hc
        exact (skipWhile_pos holds hc).symm
      · rename_i hc
        exact (skipWhile_neg holds hc).symm

theorem progresses_collectTurn (holds : Char → Bool) :
    Progresses (collectTurn holds) Collected.remaining
      fun state => (state.1 ++ state.2.takeWhile holds, state.2.skipWhile holds) where
  lowers := by
    rintro ⟨name, p, _ | ⟨c, s⟩⟩
    · trivial
    · rw [collectTurn]
      dsimp only
      split
      · exact remaining_next_cons
      · trivial
  keeps := by
    rintro ⟨name, p, _ | ⟨c, s⟩⟩
    · exact congrArg (·, _) (List.append_nil name).symm
    · rw [collectTurn]
      dsimp only
      split
      · rename_i hc
        rw [takeWhile_pos holds hc, skipWhile_pos holds hc, outcome, List.append_assoc,
          List.singleton_append]
      · rename_i hc
        rw [takeWhile_neg holds hc, skipWhile_neg holds hc, outcome, List.append_nil]

theorem progresses_digitsTurn :
    Progresses digitsTurn Collected.remaining
      fun state => (state.1 ++ state.2.takeWhile (· != '\x7d'),
        (state.2.skipWhile (· != '\x7d')).next) where
  lowers := by
    rintro ⟨digits, p, _ | ⟨c, s⟩⟩
    · trivial
    · rw [digitsTurn]
      dsimp only
      split
      · trivial
      · exact remaining_next_cons
  keeps := by
    rintro ⟨digits, p, _ | ⟨c, s⟩⟩
    · exact congrArg (·, _) (List.append_nil digits).symm
    · rw [digitsTurn]
      dsimp only
      split
      · rename_i hc
        have hstops : ¬ (c != '\x7d') = true := by simpa using hc
        rw [takeWhile_neg (· != '\x7d') hstops, skipWhile_neg (· != '\x7d') hstops, outcome,
          List.append_nil]
      · rename_i hc
        have hpasses : (c != '\x7d') = true := by simpa using hc
        rw [takeWhile_pos (· != '\x7d') hpasses, skipWhile_pos (· != '\x7d') hpasses, outcome,
          List.append_assoc, List.singleton_append]

theorem progresses_quotedTurn (quote : Char) (opened : Position) :
    Progresses (quotedTurn quote opened) Cursor.remaining
      fun cursor => (skipQuoted quote opened cursor).map (·.1.2) where
  lowers := by
    rintro ⟨p, _ | ⟨c, s⟩⟩
    · trivial
    · rw [quotedTurn]
      dsimp only
      split
      · trivial
      · exact remaining_next_cons
  keeps := by
    rintro ⟨p, _ | ⟨c, s⟩⟩
    · rfl
    · rw [quotedTurn]
      dsimp only
      split
      · rename_i hc
        have hstops : ¬ (c != quote) = true := by simpa using hc
        rw [skipQuoted]
        simp only [skipWhile_neg (· != quote) hstops]
        rfl
      · rename_i hc
        have hpasses : (c != quote) = true := by simpa using hc
        rw [skipQuoted, outcome, skipQuoted]
        simp only [skipWhile_pos (· != quote) hpasses]
        split <;> rfl

end Passing

section Spacing

theorem progresses_commentTurn (opened : Position) :
    Progresses (commentTurn opened) (·.2.remaining)
      fun state => blockComment opened state.1 state.2.position state.2.rest where
  lowers := by
    rintro ⟨ended, p, _ | ⟨c, s⟩⟩
    · trivial
    · rw [commentTurn]
      dsimp only
      split
      · trivial
      · exact remaining_next_cons
  keeps := by
    rintro ⟨ended, p, _ | ⟨c, s⟩⟩
    · rfl
    · rw [commentTurn, blockComment]
      dsimp only
      split
      · rename_i hend
        exact (if_pos hend).symm
      · rename_i hend
        exact (if_neg hend).symm

/-- A comment is passed with progress. -/
theorem remaining_blockComment_lt {opened : Position} {ended : Bool} {p : Position} {c : Char}
    {s : List Char} {result : Bool × Cursor}
    (h : blockComment opened ended (Cursor.advance 2 ⟨p, c :: s⟩).position s.tail = .ok result) :
    result.2.remaining < (Cursor.mk p (c :: s)).remaining := by
  have hle := remaining_blockComment_le h
  have hlength : (Cursor.mk p (c :: s)).remaining = s.length + 1 := rfl
  rw [List.length_tail] at hle
  omega

theorem progresses_spacingTurn :
    Progresses spacingTurn (·.2.remaining) fun state => skipSpacing state.1 state.2 where
  lowers := by
    rintro ⟨ended, p, _ | ⟨c, s⟩⟩
    · trivial
    · rw [spacingTurn]
      dsimp only
      split
      · exact remaining_next_cons
      split
      · rename_i hline
        obtain ⟨behind, hbehind⟩ := List.isPrefixOf_iff_prefix.1 hline
        cases hbehind
        exact Cursor.remaining_skipWhile_lt rfl (by decide)
      split
      · cases hcomment : blockComment p ended (Cursor.advance 2 ⟨p, c :: s⟩).position s.tail with
        | error e => trivial
        | ok next => exact remaining_blockComment_lt hcomment
      · trivial
  keeps := by
    rintro ⟨ended, p, _ | ⟨c, s⟩⟩
    · exact (skipSpacing_nil ended p).symm
    · rw [spacingTurn]
      dsimp only
      split
      · rename_i hc
        exact (skipSpacing_space hc).symm
      split
      · rename_i hline
        exact (skipSpacing_lineComment hline).symm
      split
      · rename_i hblock
        cases hcomment : blockComment p ended (Cursor.advance 2 ⟨p, c :: s⟩).position s.tail with
        | error e =>
          rw [skipSpacing_blockOpener hblock, hcomment]
          rfl
        | ok next => exact (skipSpacing_blockComment hblock hcomment).symm
      · rename_i hc hline hblock
        exact (skipSpacing_end (Bool.eq_false_iff.2 hc) (Bool.eq_false_iff.2 hline)
          (Bool.eq_false_iff.2 hblock)).symm

end Spacing

section Lexemes

theorem progresses_nameTurn :
    Progresses nameTurn Collected.remaining
      fun state => (readName state.2).map fun read => (state.1 ++ read.1, read.2) where
  lowers := by
    rintro ⟨name, p, _ | ⟨c, s⟩⟩
    · trivial
    · rw [nameTurn]
      dsimp only
      split
      · cases hescape : unicodeEscape ⟨p, c :: s⟩ with
        | error e => trivial
        | ok read => exact remaining_unicodeEscape_lt hescape
      split
      · exact remaining_next_cons
      · trivial
  keeps := by
    rintro ⟨name, p, _ | ⟨c, s⟩⟩
    · rw [nameTurn]
      dsimp only
      rw [readName_nil, Except.map, List.append_nil, outcome]
    · rw [nameTurn]
      dsimp only
      split
      · rename_i hc
        obtain rfl : c = '\\' := by simpa using hc
        cases hescape : unicodeEscape ⟨p, '\\' :: s⟩ with
        | error e =>
          rw [readName_escape_error hescape]
          rfl
        | ok read =>
          rw [readName_escape hescape]
          dsimp only [outcome]
          cases readName read.2 <;> simp [Except.map]
      split
      · rename_i hpart
        rw [readName_part hpart]
        dsimp only [outcome]
        cases readName (Cursor.next ⟨p, c :: s⟩) <;> simp [Except.map]
      · rename_i hc hpart
        rw [readName_end (by simpa using hc) (Bool.eq_false_iff.2 hpart), Except.map,
          List.append_nil, outcome]

theorem progresses_stringTurn (quote : Char) (opened : Position) :
    Progresses (stringTurn quote opened) Collected.remaining
      fun state => (readStringLiteral quote opened state.2).map fun read =>
        (state.1 ++ read.1, read.2) where
  lowers := by
    rintro ⟨value, p, _ | ⟨c, s⟩⟩
    · trivial
    · rw [stringTurn]
      dsimp only
      split
      · trivial
      split
      · trivial
      split
      · cases hescape : stringEscape opened ⟨p, c :: s⟩ with
        | error e => trivial
        | ok read => exact remaining_stringEscape_lt hescape
      · exact remaining_next_cons
  keeps := by
    rintro ⟨value, p, _ | ⟨c, s⟩⟩
    · rw [readStringLiteral_nil]
      rfl
    · rw [stringTurn]
      dsimp only
      split
      · rename_i hline
        rw [readStringLiteral_lineEnd hline]
        rfl
      rename_i hline
      rw [Bool.not_eq_true] at hline
      split
      · rename_i hc
        obtain rfl : c = quote := by simpa using hc
        rw [readStringLiteral_quote hline, Except.map, List.append_nil, outcome]
      rename_i hc
      split
      · rename_i hbackslash
        obtain rfl : c = '\\' := by simpa using hbackslash
        have hquote : quote ≠ '\\' := fun h => hc (by simp [h])
        cases hescape : stringEscape opened ⟨p, '\\' :: s⟩ with
        | error e =>
          rw [readStringLiteral_escape_error hquote hescape]
          rfl
        | ok read =>
          rw [readStringLiteral_escape hquote hescape]
          dsimp only [outcome]
          cases readStringLiteral quote opened read.2 <;> simp [Except.map]
      · rename_i hescape
        rw [readStringLiteral_plain hline (by simpa using hc) (by simpa using hescape)]
        dsimp only [outcome]
        cases readStringLiteral quote opened (Cursor.next ⟨p, c :: s⟩) <;> simp [Except.map]

theorem progresses_regexTurn (opened : Position) :
    Progresses (regexTurn opened) (·.2.remaining)
      fun state => regexBody opened state.1 false state.2.position state.2.rest where
  lowers := by
    rintro ⟨inClass, p, _ | ⟨c, s⟩⟩
    · trivial
    · rw [regexTurn]
      dsimp only
      split
      · trivial
      split
      · split
        · show (Cursor.advance 2 ⟨p, c :: s⟩).remaining < (Cursor.mk p (c :: s)).remaining
          rw [Cursor.remaining_advance, Cursor.remaining, List.length_cons]
          omega
        · trivial
      split
      · trivial
      · exact remaining_next_cons
  keeps := by
    rintro ⟨inClass, p, _ | ⟨c, s⟩⟩
    · rfl
    · rw [regexTurn, regexBody]
      dsimp only
      split
      · rfl
      rw [if_neg Bool.false_ne_true]
      split
      · obtain _ | ⟨d, t⟩ := s
        · rfl
        · rw [regexBody]
          by_cases hline : isLineTerminator d = true
          · rw [if_pos hline, if_neg (by simp [hline])]
            rfl
          · rw [if_neg hline, if_pos rfl, if_pos (by simp [hline])]
            rfl
      split <;> rfl

end Lexemes

section Numbers

/-- What the loop of a number has collected in the end. -/
def numberRead (state : Collected) : Collected :=
  let further := numberTail (startsHexadecimal (state.1 ++ state.2.rest))
    (state.1.getLast?.getD ' ') state.2.rest
  (state.1 ++ further, state.2.advance further.length)

theorem startsHexadecimal_cons_cons (a b : Char) (text more : List Char) :
    startsHexadecimal (a :: b :: text ++ more) = startsHexadecimal (a :: b :: text) :=
  rfl

/-- A sign is looked at behind the letter of an exponent, where what has been collected tells
whether the number is hexadecimal. -/
theorem exponent_eq (text more : List Char) :
    ((text.getLast? == some 'e' || text.getLast? == some 'E') && !startsHexadecimal text) =
      ((text.getLast?.getD ' ' == 'e' || text.getLast?.getD ' ' == 'E') &&
        !startsHexadecimal (text ++ more)) := by
  match text with
  | [] => rfl
  | [a] =>
    by_cases ha : a = 'e' ∨ a = 'E'
    · rcases ha with rfl | rfl <;> rfl
    · have hnot : (a == 'e' || a == 'E') = false := by simpa using ha
      simp [hnot]
  | a :: b :: text =>
    rw [startsHexadecimal_cons_cons]
    cases hlast : (a :: b :: text).getLast? with
    | none => rfl
    | some c => simp

theorem progresses_numberTurn : Progresses numberTurn Collected.remaining numberRead where
  lowers := by
    rintro ⟨text, p, _ | ⟨c, s⟩⟩
    · trivial
    · rw [numberTurn]
      dsimp only
      split
      · exact remaining_next_cons
      · trivial
  keeps := by
    rintro ⟨text, p, _ | ⟨c, s⟩⟩
    · exact congrArg (·, _) (List.append_nil text).symm
    · rw [numberTurn, numberRead]
      dsimp only
      rw [numberTail, Bool.and_assoc, exponent_eq text (c :: s), ← Bool.and_assoc]
      split
      · rw [outcome, numberRead]
        simp [Cursor.advance, Cursor.next]
      · simp [outcome, Cursor.advance]

theorem numberRead_nil {p : Position} {s : List Char} (h : startsNumber s = true) :
    numberRead ([], ⟨p, s⟩) =
      (numberText s, Cursor.advance (numberText s).length ⟨p, s⟩) := by
  obtain _ | ⟨c, s⟩ := s
  · cases h
  · have hpart : isNumberPart c = true := by
      simp only [startsNumber, Bool.or_eq_true, Bool.and_eq_true, beq_iff_eq] at h
      rcases h with hdigit | ⟨rfl, -⟩
      · simp [isNumberPart, Char.isAlphanum, hdigit]
      · rfl
    have hhexadecimal : startsHexadecimal (c :: s) =
        (c == '0' && (s.head? == some 'x' || s.head? == some 'X')) := by
      cases s <;> simp [startsHexadecimal, List.isPrefixOf, Bool.and_or_distrib_left, BEq.comm]
    rw [numberRead]
    dsimp only
    rw [List.nil_append, List.nil_append, numberTail, hpart, Bool.true_or, if_pos rfl, numberText,
      hhexadecimal]

end Numbers

/-- Each turn of a loop that no script stands in leaves less text or is the last, and what the
loop ends with is what its reader gives. -/
structure PlainLoopsProgress : Prop where
  passing : ∀ holds, Progresses (passTurn holds) Cursor.remaining (Cursor.skipWhile holds)
  collecting : ∀ holds, Progresses (collectTurn holds) Collected.remaining
    fun state => (state.1 ++ state.2.takeWhile holds, state.2.skipWhile holds)
  digits : Progresses digitsTurn Collected.remaining
    fun state => (state.1 ++ state.2.takeWhile (· != '\x7d'),
      (state.2.skipWhile (· != '\x7d')).next)
  quoted : ∀ quote opened, Progresses (quotedTurn quote opened) Cursor.remaining
    fun cursor => (skipQuoted quote opened cursor).map (·.1.2)
  comment : ∀ opened, Progresses (commentTurn opened) (·.2.remaining)
    fun state => blockComment opened state.1 state.2.position state.2.rest
  spacing : Progresses spacingTurn (·.2.remaining) fun state => skipSpacing state.1 state.2
  name : Progresses nameTurn Collected.remaining
    fun state => (readName state.2).map fun read => (state.1 ++ read.1, read.2)
  number : Progresses numberTurn Collected.remaining numberRead
  /-- Where a number starts, the loop ends with that number. -/
  numberStart : ∀ p s, startsNumber s = true → Ends numberTurn ([], ⟨p, s⟩)
    (numberText s, Cursor.advance (numberText s).length ⟨p, s⟩)
  text : ∀ quote opened, Progresses (stringTurn quote opened) Collected.remaining
    fun state => (readStringLiteral quote opened state.2).map fun read =>
      (state.1 ++ read.1, read.2)
  regex : ∀ opened, Progresses (regexTurn opened) (·.2.remaining)
    fun state => regexBody opened state.1 false state.2.position state.2.rest

theorem plainLoopsProgress : PlainLoopsProgress where
  passing := progresses_passTurn
  collecting := progresses_collectTurn
  digits := progresses_digitsTurn
  quoted := progresses_quotedTurn
  comment := progresses_commentTurn
  spacing := progresses_spacingTurn
  name := progresses_nameTurn
  number := progresses_numberTurn
  numberStart := by
    intro p s hstart
    rw [← numberRead_nil hstart]
    exact progresses_numberTurn.ends _
  text := progresses_stringTurn
  regex := progresses_regexTurn

end RouteTable.Script
