import RouteTable.Proofs.Script.Characterwise
import RouteTable.Proofs.Script.Classes
import RouteTable.Proofs.Script.Written
import Mathlib.Data.List.Infix

/-!
Which written tokens are read for themselves: names, numbers and punctuators, each followed by a
character that cannot belong to it, behind spacing or a comment.
-/

namespace RouteTable.Script

namespace Cursor

theorem advance_add (m n : Nat) (cursor : Cursor) :
    cursor.advance (m + n) = (cursor.advance m).advance n := by
  induction m generalizing cursor with
  | zero => rw [Nat.zero_add]; rfl
  | succ m ih => rw [Nat.succ_add]; exact ih cursor.next

/-- Passing as many characters as a text has is passing the text. -/
theorem advance_cons (c : Char) (s : List Char) (p : Position) (n : Nat) :
    Cursor.advance (n + 1) ⟨p, c :: s⟩ = Cursor.advance n ⟨p.step c s, s⟩ :=
  rfl

end Cursor

/-- Whether no spacing and no comment starts a text. -/
def settled (rest : List Char) : Bool :=
  !rest.head?.any isSpacing && !(['/', '/'].isPrefixOf rest) && !(['/', '*'].isPrefixOf rest)

/-- A name is not spacing. -/
theorem settled_of_isNamePart {c : Char} {s : List Char} (hc : isNamePart c = true) :
    settled (c :: s) = true := by
  have hspacing : isSpacing c = false := by
    rw [← Bool.not_eq_true]
    intro h
    rw [isNamePart_eq_false_of_isSpacing h] at hc
    cases hc
  have hslash : ¬ '/' = c := by
    rintro rfl
    exact absurd hc (by decide)
  simp [settled, hspacing, List.isPrefixOf, hslash]

theorem skipSpacing_of_settled {rest : List Char} (h : settled rest = true) (ended : Bool)
    (p : Position) : skipSpacing ended ⟨p, rest⟩ = .ok (ended, ⟨p, rest⟩) := by
  simp only [settled, Bool.and_eq_true, Bool.not_eq_true'] at h
  obtain ⟨⟨hhead, hline⟩, hblock⟩ := h
  cases rest with
  | nil => exact skipSpacing_nil ended p
  | cons c s => exact skipSpacing_end hhead hline hblock

/-- Spacing characters are passed one after another. -/
theorem skipSpacing_spaces {gap : List Char} (hgap : gap.all isSpacing = true) (ended : Bool)
    (p : Position) (rest : List Char) :
    skipSpacing ended ⟨p, gap ++ rest⟩ =
      skipSpacing (ended || gap.any isLineTerminator)
        (Cursor.advance gap.length ⟨p, gap ++ rest⟩) := by
  induction gap generalizing ended p with
  | nil => simp [Cursor.advance]
  | cons c gap ih =>
    simp only [List.all_cons, Bool.and_eq_true] at hgap
    rw [List.cons_append, skipSpacing_space hgap.1, List.length_cons, Cursor.advance_cons,
      List.any_cons, ← Bool.or_assoc]
    exact ih hgap.2 _ _

theorem blockComment_append {body : List Char} (hbody : ¬ ['*', '/'] <:+: body) (opened : Position)
    (ended : Bool) (p : Position) (rest : List Char) :
    blockComment opened ended p (body ++ '*' :: '/' :: rest) =
      .ok (ended || body.any isLineTerminator,
        Cursor.advance (body.length + 2) ⟨p, body ++ '*' :: '/' :: rest⟩) := by
  induction body generalizing ended p with
  | nil =>
    rw [List.nil_append, blockComment, if_pos (by simp [List.isPrefixOf])]
    simp
  | cons c body ih =>
    rw [List.infix_cons_iff, not_or] at hbody
    have hapart : ['*', '/'].isPrefixOf (c :: (body ++ '*' :: '/' :: rest)) = false := by
      cases body with
      | nil => simp [List.isPrefixOf]
      | cons d body =>
        have hstart := hbody.1
        simp only [List.cons_prefix_cons, List.nil_prefix, and_true, not_and] at hstart
        simp only [List.cons_append, List.isPrefixOf, Bool.and_true, Bool.and_eq_false_iff,
          beq_eq_false_iff_ne]
        by_cases hc : '*' = c
        · exact Or.inr (hstart hc)
        · exact Or.inl hc
    rw [List.cons_append, blockComment, if_neg (by simp [hapart]), ih hbody.2, List.any_cons,
      Bool.or_assoc]
    rfl

/-- A block comment is passed up to its end. -/
theorem skipSpacing_comment {body : List Char} (hbody : ¬ ['*', '/'] <:+: body) (ended : Bool)
    (p : Position) (rest : List Char) :
    skipSpacing ended ⟨p, '/' :: '*' :: body ++ '*' :: '/' :: rest⟩ =
      skipSpacing (ended || body.any isLineTerminator)
        (Cursor.advance (body.length + 4) ⟨p, '/' :: '*' :: body ++ '*' :: '/' :: rest⟩) := by
  have hcomment := blockComment_append hbody p ended
    (Cursor.advance 2 ⟨p, '/' :: '*' :: (body ++ '*' :: '/' :: rest)⟩).position rest
  have hlength : body.length + 4 = 2 + (body.length + 2) := by omega
  simp only [List.cons_append]
  rw [skipSpacing_blockComment (by simp [Cursor.startsWith, List.isPrefixOf]) hcomment, hlength,
    Cursor.advance_add 2]
  rfl

/-- The marks around a block comment end no line. -/
theorem any_blockComment (body gap : List Char) :
    ('/' :: '*' :: (body ++ '*' :: '/' :: gap)).any isLineTerminator =
      (body.any isLineTerminator || gap.any isLineTerminator) := by
  have hmarks : isLineTerminator '/' = false ∧ isLineTerminator '*' = false := by decide
  simp [hmarks]

namespace Written

theorem gapRead_spaces {gap rest : List Char} (hgap : gap.all isSpacing = true)
    (hrest : settled rest = true) : GapRead gap rest := by
  intro p
  obtain ⟨q, hbehind⟩ := Cursor.advance_append p gap rest
  rw [skipSpacing_spaces hgap, Bool.false_or, hbehind]
  exact skipSpacing_of_settled hrest _ _

theorem gapRead_comment {body spaces rest : List Char} (hbody : ¬ ['*', '/'] <:+: body)
    (hspaces : spaces.all isSpacing = true) (hrest : settled rest = true) :
    GapRead ('/' :: '*' :: body ++ '*' :: '/' :: spaces) rest := by
  intro p
  have hlength : ('/' :: '*' :: body ++ '*' :: '/' :: spaces).length =
      body.length + 4 + spaces.length := by
    simp only [List.length_append, List.length_cons]
    omega
  have hany : ('/' :: '*' :: body ++ '*' :: '/' :: spaces).any isLineTerminator =
      (body.any isLineTerminator || spaces.any isLineTerminator) := any_blockComment body spaces
  have htext : '/' :: '*' :: body ++ '*' :: '/' :: spaces ++ rest =
      '/' :: '*' :: body ++ '*' :: '/' :: (spaces ++ rest) := by
    simp
  rw [hlength, hany, htext, skipSpacing_comment hbody, Bool.false_or,
    Cursor.advance_add (body.length + 4)]
  generalize hlast : Cursor.advance (body.length + 4)
    ⟨p, '/' :: '*' :: body ++ '*' :: '/' :: (spaces ++ rest)⟩ = last
  have hlastRest : last.rest = spaces ++ rest := by
    simp [← hlast]
  obtain ⟨q, hbehind⟩ := Cursor.advance_append last.position spaces rest
  rw [Cursor.eq_of_rest hlastRest, skipSpacing_spaces hspaces, hbehind]
  exact skipSpacing_of_settled hrest _ _

/-- The characters of a name are read up to the first that is not one. -/
theorem readName_append {name rest : List Char} (hname : name.all isNamePart = true)
    (hrest : rest.head?.any isNamePart = false) (hescape : rest.head? ≠ some '\\')
    (p : Position) :
    readName ⟨p, name ++ rest⟩ = .ok (name, Cursor.advance name.length ⟨p, name ++ rest⟩) := by
  induction name generalizing p with
  | nil =>
    cases rest with
    | nil => exact readName_nil p
    | cons c s =>
      simp only [List.head?_cons, Option.any_some, ne_eq, Option.some.injEq] at hrest hescape
      exact readName_end hescape hrest
  | cons c name ih =>
    simp only [List.all_cons, Bool.and_eq_true] at hname
    rw [List.cons_append, readName_part hname.1, Cursor.next, ih hname.2]
    rfl

/-- A name of plain characters is a token of its own where no character of a name follows. -/
theorem legible_name {gap name rest : List Char} (hgap : GapRead gap (name ++ rest))
    (hstart : name.head?.any isNameStart = true) (hname : name.all isNamePart = true)
    (hrest : rest.head?.any isNamePart = false) (hescape : rest.head? ≠ some '\\')
    (before : List Token) : Legible before ⟨gap, name, .name, String.ofList name⟩ rest := by
  cases name with
  | nil => cases hstart
  | cons c name =>
    simp only [List.head?_cons, Option.any_some] at hstart
    refine ⟨hgap, by simp, fun p => ?_⟩
    have hread := readName_append hname hrest hescape p
    rw [List.cons_append] at hread ⊢
    rw [readLexeme_name hstart before, hread]
    rfl

/-- A punctuator is a token of its own where the text goes on with no longer one, and it does not
start a literal or an element. -/
theorem legible_punctuator {gap mark rest : List Char} (hgap : GapRead gap (mark ++ rest))
    (hmark : punctuator? (mark ++ rest) = some mark)
    (hplain : mark.head?.any (fun c => isNameStart c || c == '#' || c == '"' || c == '\'' ||
      c == '/' || c == '\x60') = false)
    (hnumber : startsNumber (mark ++ rest) = false) {before : List Token}
    (hangle : mark.head? ≠ some '<' ∨ awaitsOperand before = false) :
    Legible before ⟨gap, mark, .punctuator, String.ofList mark⟩ rest := by
  cases mark with
  | nil => exact absurd (punctuator?_pos hmark).1 (Nat.lt_irrefl 0)
  | cons c mark =>
    simp only [List.head?_cons, Option.any_some, Bool.or_eq_false_iff, beq_eq_false_iff_ne, ne_eq,
      Option.some.injEq] at hplain hangle
    obtain ⟨⟨⟨⟨⟨hstart, hprivate⟩, hdouble⟩, hsingle⟩, hslash⟩, hbackquote⟩ := hplain
    refine ⟨hgap, by simp, fun p => ?_⟩
    rw [List.cons_append] at hmark hnumber ⊢
    rw [readLexeme_of_ne hbackquote hangle]
    have hstarts : StartsMark before c (mark ++ rest) :=
      ⟨hstart, by simp [hprivate], hnumber, by simp [hdouble, hsingle], by simp [hslash]⟩
    exact readPlain_punctuator hstarts hmark

/-- A number is a token of its own where no character of a number follows. -/
theorem legible_number {gap number rest : List Char} (hgap : GapRead gap (number ++ rest))
    (hplain : number.head?.any (fun c => isNameStart c || c == '#' || c == '<' || c == '\x60') =
      false)
    (hnumber : startsNumber (number ++ rest) = true)
    (htext : numberText (number ++ rest) = number) (before : List Token) :
    Legible before ⟨gap, number, .number, String.ofList number⟩ rest := by
  cases number with
  | nil =>
    cases rest with
    | nil => cases hnumber
    | cons c rest => cases htext
  | cons c number =>
    simp only [List.head?_cons, Option.any_some, Bool.or_eq_false_iff, beq_eq_false_iff_ne,
      ne_eq] at hplain
    obtain ⟨⟨⟨hstart, hprivate⟩, hangle⟩, hbackquote⟩ := hplain
    refine ⟨hgap, by simp, fun p => ?_⟩
    rw [List.cons_append] at hnumber htext ⊢
    rw [readLexeme_of_ne hbackquote (Or.inl hangle), readPlain_number hstart hnumber, htext]

end Written

end RouteTable.Script
