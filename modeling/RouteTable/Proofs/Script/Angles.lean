import Mathlib.Data.List.TakeWhile
import RouteTable.Proofs.Script.Characterwise
import RouteTable.Proofs.Script.Classes
import RouteTable.Proofs.Script.Reading
import RouteTable.Proofs.Script.Written

/-!
Which `<` opens an element. What decides is the name behind it and what stands behind the name, so
that a text that goes beyond them decides alone. A name in front of a `,` or of `extends` is that of
a type parameter, but only white space may stand between them: a comment may not.
-/

namespace RouteTable.Script

/-- Whether two texts start with a space, or are both empty. -/
def Interchangeable (t t' : List Char) : Prop :=
  (t = [] ∧ t' = []) ∨ (t.head? = some ' ' ∧ t'.head? = some ' ')

/-- What is left of a text behind a name at its start, with white space around the name. -/
def behindName (text : List Char) : List Char :=
  ((text.dropWhile Text.isBlank).dropWhile isTagNamePart).dropWhile Text.isBlank

/-- Whether a text is a name, with white space around it. -/
def isLoneName (text : List Char) : Bool :=
  (text.dropWhile Text.isBlank).head?.any isNameStart && (behindName text).isEmpty

/-- Whether a text goes on behind the name of a type parameter: with a `,` or with `extends`. -/
def continuesParameters (text : List Char) : Bool :=
  let after := text.dropWhile Text.isBlank
  after.head? == some ',' || "extends ".toList.isPrefixOf after

section Behind

variable {text : List Char}

theorem dropWhile_append_of_ne_nil {holds : Char → Bool} (h : text.dropWhile holds ≠ [])
    (rest : List Char) : (text ++ rest).dropWhile holds = text.dropWhile holds ++ rest := by
  rw [List.dropWhile_append, if_neg]
  rwa [List.isEmpty_iff]

theorem dropWhile_append_of_eq_nil {holds : Char → Bool} (h : text.dropWhile holds = [])
    (rest : List Char) : (text ++ rest).dropWhile holds = rest.dropWhile holds := by
  rw [List.dropWhile_append, if_pos]
  rwa [List.isEmpty_iff]

theorem mem_dropWhile {holds : Char → Bool} {c : Char} (hc : holds c = false) (hmem : c ∈ text) :
    c ∈ text.dropWhile holds := by
  rw [← List.takeWhile_append_dropWhile (p := holds) (l := text), List.mem_append] at hmem
  rcases hmem with hmem | hmem
  · rw [List.mem_takeWhile_imp hmem] at hc
    cases hc
  · exact hmem

/-- A character that is neither white space nor part of a name is never passed. -/
theorem behindName_ne_nil {c : Char} (hblank : Text.isBlank c = false)
    (hpart : isTagNamePart c = false) (hmem : c ∈ text) : behindName text ≠ [] :=
  List.ne_nil_of_mem (mem_dropWhile hblank (mem_dropWhile hpart (mem_dropWhile hblank hmem)))

end Behind

section Opens

variable {t t' text : List Char}

/-- A text that has no space but at its end starts both or neither. -/
theorem isPrefixOf_append (hends : Interchangeable t t') {text : List Char}
    (htext : ' ' ∉ text.dropLast) (u : List Char) :
    text.isPrefixOf (u ++ t') = text.isPrefixOf (u ++ t) := by
  induction u generalizing text with
  | nil =>
    rcases hends with ⟨rfl, rfl⟩ | ⟨hhead, hhead'⟩
    · rfl
    · obtain ⟨s, rfl⟩ := List.head?_eq_some_iff.1 hhead
      obtain ⟨s', rfl⟩ := List.head?_eq_some_iff.1 hhead'
      match text with
      | [] => rfl
      | [c] => simp [List.isPrefixOf]
      | c :: d :: text =>
        have hc : (c == ' ') = false := by
          rw [beq_eq_false_iff_ne]
          rintro rfl
          exact htext List.mem_cons_self
        simp [List.isPrefixOf, hc]
  | cons e u ih =>
    match text with
    | [] => rfl
    | [c] => simp [List.isPrefixOf]
    | c :: d :: text =>
      have hrest : ' ' ∉ (d :: text).dropLast := fun h => htext (List.mem_cons_of_mem c h)
      rw [List.cons_append, List.cons_append, List.isPrefixOf, List.isPrefixOf, ih hrest]

theorem head?_append (hends : Interchangeable t t') (u : List Char) :
    (u ++ t').head? = (u ++ t).head? := by
  cases u with
  | nil =>
    rcases hends with ⟨rfl, rfl⟩ | ⟨hhead, hhead'⟩
    · rfl
    · exact hhead'.trans hhead.symm
  | cons c u => rfl

/-- A text that goes on behind the name decides alone. -/
theorem opensElement_append (hends : Interchangeable t t') (htext : behindName text ≠ []) :
    opensElement ('<' :: (text ++ t')) = opensElement ('<' :: (text ++ t)) := by
  have hnamed : (text.dropWhile Text.isBlank).dropWhile isTagNamePart ≠ [] := by
    intro h
    rw [behindName, h] at htext
    exact htext rfl
  have hstart : text.dropWhile Text.isBlank ≠ [] := by
    intro h
    rw [h] at hnamed
    exact hnamed rfl
  obtain ⟨c, s, hs⟩ := List.exists_cons_of_ne_nil hstart
  have hbehind (rest : List Char) :
      ((c :: (s ++ rest)).dropWhile isTagNamePart).dropWhile Text.isBlank =
        behindName text ++ rest := by
    rw [← List.cons_append, ← hs, dropWhile_append_of_ne_nil hnamed,
      dropWhile_append_of_ne_nil htext]
    rfl
  have hparts : ' ' ∉ "extends ".toList.dropLast := by decide
  simp only [opensElement, List.tail_cons, dropWhile_append_of_ne_nil hstart, hs, List.cons_append,
    hbehind, head?_append hends, isPrefixOf_append hends hparts]

theorem isTagNamePart_space : isTagNamePart ' ' = false := by
  have hname : isNamePart ' ' = false := isNamePart_eq_false_of_isSpacing (by decide)
  simp [isTagNamePart, hname]

/-- White space goes on behind a space. -/
theorem dropWhile_space (rest : List Char) :
    (' ' :: rest).dropWhile Text.isBlank = rest.dropWhile Text.isBlank :=
  List.dropWhile_cons_of_pos (by decide)

/-- A name that is left of a text ends at a space behind it. -/
theorem dropWhile_behindName (htext : behindName text = []) (rest : List Char) :
    ((text.dropWhile Text.isBlank ++ ' ' :: rest).dropWhile isTagNamePart).dropWhile Text.isBlank =
      rest.dropWhile Text.isBlank := by
  have hspace : ¬ isTagNamePart ' ' = true := by
    rw [isTagNamePart_space]
    decide
  by_cases hname : (text.dropWhile Text.isBlank).dropWhile isTagNamePart = []
  · rw [dropWhile_append_of_eq_nil hname, List.dropWhile_cons_of_neg hspace, dropWhile_space]
  · rw [dropWhile_append_of_ne_nil hname, dropWhile_append_of_eq_nil htext, dropWhile_space]

/-- A `<` in front of a lone name opens an element unless the parameters go on behind it. -/
theorem opensElement_loneName (htext : isLoneName text = true) (rest : List Char) :
    opensElement ('<' :: (text ++ ' ' :: rest)) = !continuesParameters rest := by
  simp only [isLoneName, Bool.and_eq_true, List.isEmpty_iff, Option.any_eq_true] at htext
  obtain ⟨⟨c, hhead, hc⟩, hname⟩ := htext
  obtain ⟨s, hs⟩ := List.head?_eq_some_iff.1 hhead
  have hstart : text.dropWhile Text.isBlank ≠ [] := by simp [hs]
  have hend : (c == '>') = false := by simpa using (Reader.ne_of_isNameStart hc).2.1
  have hbehind := dropWhile_behindName hname rest
  rw [hs, List.cons_append] at hbehind
  simp only [opensElement, List.tail_cons, dropWhile_append_of_ne_nil hstart, hs, List.cons_append,
    hbehind, hc, hend, Bool.false_or, Bool.true_and, continuesParameters]

/-- With a comment behind the space, a `<` opens an element exactly in front of a lone name. -/
theorem opensElement_comment (htext : behindName text = []) (rest : List Char) :
    opensElement ('<' :: (text ++ ' ' :: '/' :: rest)) = isLoneName text := by
  by_cases hlone : isLoneName text = true
  · have hcomment : continuesParameters ('/' :: rest) = false := by
      have hslash : Text.isBlank '/' = false := by decide
      simp [continuesParameters, hslash, List.isPrefixOf]
    rw [opensElement_loneName hlone, hcomment, hlone]
    rfl
  · rw [Bool.not_eq_true] at hlone
    rw [hlone]
    have hopens := hlone
    simp only [isLoneName, htext, List.isEmpty_nil, Bool.and_true] at hopens
    rcases hs : text.dropWhile Text.isBlank with _ | ⟨c, s⟩
    · have hslash : ('/' :: rest).dropWhile Text.isBlank = '/' :: rest :=
        List.dropWhile_cons_of_neg (by decide)
      have hname : isNameStart '/' = false := by decide +kernel
      simp [opensElement, dropWhile_append_of_eq_nil hs, dropWhile_space, hslash, hname]
    · have hstart : text.dropWhile Text.isBlank ≠ [] := by simp [hs]
      have hmem : c ∈ text := (List.dropWhile_sublist Text.isBlank).subset (hs ▸ List.mem_cons_self)
      have hend : c ≠ '>' := by
        rintro rfl
        exact behindName_ne_nil (by decide) (by decide +kernel) hmem htext
      rw [hs] at hopens
      simp only [List.head?_cons, Option.any_some] at hopens
      simp [opensElement, dropWhile_append_of_ne_nil hstart, hs, hopens, hend]

/-- Where an operand may stand, a `<` is read as an element or as a punctuator. -/
theorem readLexeme_angle {before : List Token} {p : Position} {s : List Char}
    {result : TokenClass × String} {after : Cursor}
    {hlt : after.remaining < (Cursor.mk p ('<' :: s)).remaining}
    (hawaits : awaitsOperand before = true)
    (h : readLexeme before ⟨p, '<' :: s⟩ = .ok ⟨(result, after), hlt⟩) :
    opensElement ('<' :: s) = true ∧ result.1 = .element ∧
        Gives (readElement (Cursor.next ⟨p, '<' :: s⟩)) () after ∨
      opensElement ('<' :: s) = false ∧ result.1 = .punctuator := by
  rcases readLexeme_cases h with ⟨_, _, hcursor, -⟩ | ⟨_, _, hcursor, rfl, -, hopens, hread⟩ |
    ⟨_, _, _, hcursor, -, hangle, hplain⟩
  · cases hcursor
  · cases hcursor
    exact .inl ⟨hopens, rfl, hread⟩
  · cases hcursor
    refine .inr ⟨by simpa [hawaits] using hangle, ?_⟩
    cases readsPlain_of_readPlain hplain with
    | name hstart => exact absurd hstart (by decide +kernel)
    | number _ hnumber => cases hnumber
    | string hquote => simp at hquote
    | punctuator => rfl

/-- A `<` that is read as no element is a punctuator. -/
theorem readLexeme_less {before : List Token} {s : List Char}
    (hplain : (awaitsOperand before && opensElement ('<' :: s)) = false)
    (hmark : punctuator? ('<' :: s) = some ['<']) (p : Position) :
    (readLexeme before ⟨p, '<' :: s⟩).map Subtype.val =
      .ok ((.punctuator, "<"), Cursor.next ⟨p, '<' :: s⟩) := by
  have hstarts : StartsMark before '<' s := ⟨by decide +kernel, rfl, rfl, rfl, rfl⟩
  rw [readLexeme_plain (by decide) (by simpa using hplain)]
  exact readPlain_punctuator hstarts hmark

/-- A `<` that opens no element is a token of its own. -/
theorem legible_angle {gap rest : List Char} (hgap : Written.GapRead gap ('<' :: rest))
    (hopens : opensElement ('<' :: rest) = false) (hmark : punctuator? ('<' :: rest) = some ['<'])
    (before : List Token) : Written.Legible before ⟨gap, ['<'], .punctuator, "<"⟩ rest :=
  ⟨hgap, List.cons_ne_nil _ _, fun p => readLexeme_less (by simp [hopens]) hmark p⟩

end Opens

end RouteTable.Script
