import RouteTable.Script.Cursor
import Mathlib.Data.List.DropRight

/-!
Lines and columns, counted on a text as a whole: the line behind a text is one more than the number
of lines that end in it, and the column one more than the number of characters behind the last end
of a line. A cursor that steps over the text counts the same.
-/

namespace RouteTable.Script

/-- How many lines end in a text, a carriage return and a line feed behind it ending one. -/
def lineEnds : List Char → Nat
  | [] => 0
  | c :: s =>
    if isLineTerminator c then
      if c == '\r' && s.head? == some '\n' then lineEnds s else lineEnds s + 1
    else lineEnds s

def lastLine (text : List Char) : List Char :=
  text.rtakeWhile (!isLineTerminator ·)

def positionBehind (text : List Char) : Position :=
  ⟨1 + lineEnds text, 1 + (lastLine text).length⟩

/-- Whether a text does not end between a carriage return and its line feed. -/
def EndsApart (text rest : List Char) : Prop :=
  ¬ (text.getLast? = some '\r' ∧ rest.head? = some '\n')

theorem lastLine_of_no_end {text : List Char} (h : text.any isLineTerminator = false) :
    lastLine text = text := by
  rw [lastLine, List.rtakeWhile_eq_self_iff]
  intro c hc
  rw [Bool.not_eq_true', ← Bool.not_eq_true]
  intro hends
  exact absurd (List.any_eq_true.2 ⟨c, hc, hends⟩) (by rw [h]; exact Bool.false_ne_true)

/-- A character in front belongs to the last line if no line ends behind it. -/
theorem lastLine_cons (c : Char) (s : List Char) :
    lastLine (c :: s) = if (c :: s).any isLineTerminator then lastLine s else c :: s := by
  by_cases hall : (c :: s).any isLineTerminator = true
  · rw [if_pos hall, lastLine, lastLine, List.rtakeWhile, List.rtakeWhile, List.reverse_cons,
      List.takeWhile_append]
    split
    · rename_i hlength
      have hnone : s.any isLineTerminator = false := by
        have hself := (List.takeWhile_prefix _).eq_of_length hlength
        rw [List.takeWhile_eq_self_iff] at hself
        rw [← Bool.not_eq_true, List.any_eq_true]
        rintro ⟨d, hd, hends⟩
        have hplain := hself d (List.mem_reverse.2 hd)
        rw [hends] at hplain
        cases hplain
      rw [List.any_cons, hnone, Bool.or_false] at hall
      rw [List.takeWhile_cons_of_neg (by simp [hall]), List.append_nil,
        (List.takeWhile_prefix _).eq_of_length hlength]
    · rfl
  · rw [if_neg hall]
    exact lastLine_of_no_end (Bool.eq_false_iff.2 hall)

theorem endsApart_of_cons {c : Char} {s rest : List Char} (h : EndsApart (c :: s) rest) :
    EndsApart s rest := by
  rintro ⟨hlast, hhead⟩
  refine h ⟨?_, hhead⟩
  rw [List.getLast?_cons, hlast]
  rfl

/-- A cursor that passes a text counts the ends of its lines and the characters behind the last. -/
theorem position_advance (p : Position) {text rest : List Char} (h : EndsApart text rest) :
    (Cursor.advance text.length ⟨p, text ++ rest⟩).position =
      ⟨p.line + lineEnds text,
        (if text.any isLineTerminator then 1 else p.column) + (lastLine text).length⟩ := by
  induction text generalizing p with
  | nil => rfl
  | cons c s ih =>
    have hstep : Cursor.advance (c :: s).length ⟨p, (c :: s) ++ rest⟩ =
        Cursor.advance s.length ⟨p.step c (s ++ rest), s ++ rest⟩ := rfl
    rw [hstep, ih _ (endsApart_of_cons h), lineEnds, lastLine_cons, List.any_cons, Position.step]
    have hpair : (c == '\r' && (s ++ rest).head? == some '\n') =
        (c == '\r' && s.head? == some '\n') := by
      rcases s with _ | ⟨d, s⟩
      · have happart : ¬ (c = '\r' ∧ rest.head? = some '\n') := by
          simpa [EndsApart] using h
        simpa using happart
      · rfl
    by_cases hends : isLineTerminator c = true
    · rw [if_pos hends, if_pos hends, hends, Bool.true_or, if_pos rfl, if_pos rfl, hpair]
      by_cases hfeed : (c == '\r' && s.head? == some '\n') = true
      · have hlater : s.any isLineTerminator = true := by
          rw [Bool.and_eq_true, beq_iff_eq, beq_iff_eq] at hfeed
          rw [List.any_eq_true]
          exact ⟨'\n', List.mem_of_head? hfeed.2, rfl⟩
        rw [if_pos hfeed, if_pos hfeed, if_pos hlater]
      · rw [if_neg hfeed, if_neg hfeed, ite_self, Nat.add_right_comm, Nat.add_assoc]
    · rw [if_neg hends, if_neg hends, Bool.eq_false_iff.2 hends, Bool.false_or]
      by_cases hlater : s.any isLineTerminator = true
      · rw [if_pos hlater, if_pos hlater, if_pos hlater]
      · rw [if_neg hlater, if_neg hlater, if_neg hlater,
          lastLine_of_no_end (Bool.eq_false_iff.2 hlater), List.length_cons, Nat.add_right_comm,
          Nat.add_assoc]

end RouteTable.Script
