import RouteTable.Proofs.Script.Plain

/-!
Where a block comment ends. A comment may list quoted texts: a quote, a comma or an escape does not
bring a star and a slash together, so that the comment goes on over every text that does not end it
itself.
-/

namespace RouteTable.Script

/-- Whether the end of a block comment stands in a text. -/
def EndsComment (s : List Char) : Prop :=
  ['*', '/'] <:+: s

instance (s : List Char) : Decidable (EndsComment s) :=
  inferInstanceAs (Decidable (['*', '/'] <:+: s))

/-- Whether a character is no part of the end of a block comment. -/
def isInert (c : Char) : Bool :=
  c != '*' && c != '/'

theorem not_endsComment_nil : ¬ EndsComment [] := by
  intro h
  exact absurd (List.infix_nil.1 h) (by decide)

theorem endsComment_cons {c : Char} {s : List Char} :
    EndsComment (c :: s) ↔ (c = '*' ∧ s.head? = some '/') ∨ EndsComment s := by
  unfold EndsComment
  rw [List.infix_cons_iff]
  cases s with
  | nil => simp
  | cons d s =>
    simp only [List.cons_prefix_cons, List.nil_prefix, and_true, List.head?_cons,
      Option.some.injEq]
    rw [eq_comm, @eq_comm _ d]

/-- A character that is neither a star nor a slash keeps the texts at its sides apart. -/
theorem endsComment_append_cons {s t : List Char} {c : Char} (hstar : c ≠ '*') (hslash : c ≠ '/')
    (h : EndsComment (s ++ c :: t)) : EndsComment s ∨ EndsComment t := by
  induction s with
  | nil =>
    rw [List.nil_append, endsComment_cons] at h
    rcases h with h | h
    · exact absurd h.1 hstar
    · exact Or.inr h
  | cons d s ih =>
    rw [List.cons_append, endsComment_cons] at h
    rw [endsComment_cons]
    rcases h with ⟨hd, hhead⟩ | h
    · cases s with
      | nil =>
        simp only [List.nil_append, List.head?_cons, Option.some.injEq] at hhead
        exact absurd hhead hslash
      | cons e s =>
        exact Or.inl (Or.inl ⟨hd, hhead⟩)
    · rcases ih h with h | h
      · exact Or.inl (Or.inr h)
      · exact Or.inr h

theorem endsComment_of_append {s t : List Char} (hs : s.all isInert = true)
    (h : EndsComment (s ++ t)) : EndsComment t := by
  induction s with
  | nil => exact h
  | cons c s ih =>
    rw [List.all_cons, Bool.and_eq_true] at hs
    rw [List.cons_append, endsComment_cons] at h
    rcases h with ⟨hstar, -⟩ | h
    · rw [hstar] at hs
      exact absurd hs.1 (by decide)
    · exact ih hs.2 h

/-- A character is written in a literal as itself or as an escape, which has no star and no
slash. -/
theorem literalChar_cases (c : Char) : literalChar c = [c] ∨
    ∃ s, literalChar c = '\\' :: s ∧ (literalChar c).all isInert = true := by
  unfold literalChar
  split
  case h_8 =>
    split
    · rename_i hcontrol
      right
      have hdigits : ∀ n < 0x20, (['\\', 'u', '0', '0', Text.lowerHexadecimalDigit (n / 16),
          Text.lowerHexadecimalDigit (n % 16)].all isInert) = true := by
        decide
      exact ⟨_, rfl, hdigits c.toNat hcontrol⟩
    · exact Or.inl rfl
  all_goals exact Or.inr ⟨_, rfl, by decide⟩

/-- What is quoted ends no comment unless the text itself does. -/
theorem endsComment_of_flatMap_literalChar {v : List Char}
    (h : EndsComment (v.flatMap literalChar)) : EndsComment v := by
  induction v with
  | nil => exact h
  | cons c v ih =>
    rw [List.flatMap_cons] at h
    rw [endsComment_cons]
    rcases literalChar_cases c with hc | ⟨-, -, hc⟩
    · rw [hc, List.singleton_append, endsComment_cons] at h
      rcases h with ⟨hstar, hhead⟩ | h
      · left
        refine ⟨hstar, ?_⟩
        cases v with
        | nil => cases hhead
        | cons d v =>
          rw [List.flatMap_cons] at hhead
          rcases literalChar_cases d with hd | ⟨s, hd, -⟩
          · rw [hd] at hhead
            exact hhead
          · rw [hd, List.cons_append, List.head?_cons, Option.some.injEq] at hhead
            exact absurd hhead (by decide)
      · exact Or.inr (ih h)
    · exact Or.inr (ih (endsComment_of_append hc h))

theorem endsComment_of_doubleQuoted_append {v : String} {t : List Char}
    (h : EndsComment ((doubleQuoted v).toList ++ t)) : EndsComment v.toList ∨ EndsComment t := by
  have hquote : ['"'].all isInert = true := by decide
  have htext : (doubleQuoted v).toList ++ t =
      ['"'] ++ (v.toList.flatMap literalChar ++ '"' :: t) := by
    simp [Written.toList_doubleQuoted]
  rw [htext] at h
  have hbody := endsComment_of_append hquote h
  rcases endsComment_append_cons (by decide) (by decide) hbody with hbody | hrest
  · exact Or.inl (endsComment_of_flatMap_literalChar hbody)
  · exact Or.inr hrest

/-- The end of a block comment stands in a text for a first time. -/
theorem exists_of_endsComment {s : List Char} (h : EndsComment s) :
    ∃ before after, s = before ++ '*' :: '/' :: after ∧ ¬ EndsComment before := by
  induction s with
  | nil => exact absurd h not_endsComment_nil
  | cons c s ih =>
    by_cases hstart : c = '*' ∧ s.head? = some '/'
    · obtain ⟨rfl, hhead⟩ := hstart
      obtain ⟨after, rfl⟩ := List.head?_eq_some_iff.1 hhead
      exact ⟨[], after, rfl, not_endsComment_nil⟩
    · rw [endsComment_cons, or_iff_right hstart] at h
      obtain ⟨before, after, rfl, hbefore⟩ := ih h
      refine ⟨c :: before, after, rfl, ?_⟩
      rw [endsComment_cons, not_or]
      refine ⟨?_, hbefore⟩
      rintro ⟨rfl, hhead⟩
      apply hstart
      refine ⟨rfl, ?_⟩
      rw [List.head?_append, hhead]
      rfl

/-- Whether a block comment that goes on with a text ends so that `rest` is behind it. -/
def CommentLeaves (s rest : List Char) : Prop :=
  ∀ opened ended p, ∃ ended' q, blockComment opened ended p s = .ok (ended', ⟨q, rest⟩)

theorem commentLeaves_append {s : List Char} (h : ¬ EndsComment s) (rest : List Char) :
    CommentLeaves (s ++ '*' :: '/' :: rest) rest := by
  intro opened ended p
  have htext : s ++ '*' :: '/' :: rest = (s ++ ['*', '/']) ++ rest := by
    simp
  have hlength : s.length + 2 = (s ++ ['*', '/']).length := by
    simp
  obtain ⟨q, hq⟩ := Cursor.advance_append p (s ++ ['*', '/']) rest
  rw [blockComment_append h, hlength, htext, hq]
  exact ⟨_, q, rfl⟩

theorem CommentLeaves.unique {s first second : List Char} (h : CommentLeaves s first)
    (h' : CommentLeaves s second) : first = second := by
  obtain ⟨_, _, hfirst⟩ := h .start false .start
  obtain ⟨_, _, hsecond⟩ := h' .start false .start
  cases hfirst.symm.trans hsecond
  rfl

end RouteTable.Script
