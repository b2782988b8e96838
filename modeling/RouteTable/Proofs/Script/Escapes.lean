import RouteTable.Proofs.Script.Passage
import RouteTable.Proofs.Script.Plain
import RouteTable.Proofs.Script.Sole
import RouteTable.Proofs.Text.Hexadecimal

/-!
Escapes that give a character by its code point. What the grammar calls an escape is read as one
wherever a name or a string comes to it, and exactly its text is passed. More is read than that: a
plus sign in front of the digits, and an escape that the end of the text cuts off. All else makes
the source fail.
-/

namespace RouteTable.Script

open Cursor Text

/-- How many digits an escape without braces has: four behind `\u`, and two behind `\x`, which is an
escape in a string. -/
inductive DigitCount (inString : Bool) : Char → Nat → Prop where
  | four : DigitCount inString 'u' 4
  | two (hstring : inString = true) : DigitCount inString 'x' 2

theorem DigitCount.eq_or_eq {inString : Bool} {mark : Char} {count : Nat}
    (h : DigitCount inString mark count) : mark = 'u' ∧ count = 4 ∨ mark = 'x' ∧ count = 2 := by
  cases h with
  | four => exact .inl ⟨rfl, rfl⟩
  | two => exact .inr ⟨rfl, rfl⟩

/-- Whether a text is an escape of a character in a string or in a name. In the grammar an escape is
finished and has no sign. One that is not finished has too few digits or no closing brace. -/
inductive IsEscape (inString signed : Bool) (c : Char) : Bool → List Char → Prop where
  | counted {mark : Char} {count : Nat} {digits : List Char}
      (hmark : DigitCount inString mark count) (hdigits : IsNumeral digits)
      (hvalue : hexadecimalValue digits = c.toNat)
      (hcount : (withSign signed digits).length = count) :
      IsEscape inString signed c true ('\\' :: mark :: withSign signed digits)
  | counting {mark : Char} {count : Nat} {digits : List Char}
      (hmark : DigitCount inString mark count) (hdigits : IsNumeral digits)
      (hvalue : hexadecimalValue digits = c.toNat)
      (hcount : (withSign signed digits).length < count) :
      IsEscape inString signed c false ('\\' :: mark :: withSign signed digits)
  | braced {digits : List Char} (hdigits : IsNumeral digits)
      (hvalue : hexadecimalValue digits = c.toNat) :
      IsEscape inString signed c true
        ('\\' :: 'u' :: '\x7b' :: (withSign signed digits ++ ['\x7d']))
  | bracing {digits : List Char} (hdigits : IsNumeral digits)
      (hvalue : hexadecimalValue digits = c.toNat) :
      IsEscape inString signed c false ('\\' :: 'u' :: '\x7b' :: withSign signed digits)

section Digits

variable {signed : Bool} {digits : List Char} {c d : Char}

theorem characterOfDigits?_eq_some_iff {text : List Char} :
    characterOfDigits? text = some c ↔ ∃ signed digits, text = withSign signed digits ∧
      IsNumeral digits ∧ hexadecimalValue digits = c.toNat := by
  rw [← hexadecimal?_eq_some_iff, characterOfDigits?]
  cases hexadecimal? text with
  | none => simp
  | some n =>
    dsimp only
    by_cases hvalid : n.isValidChar
    · rw [dif_pos hvalid, Option.some.injEq, Option.some.injEq, ← Char.toNat_inj]
      rfl
    · rw [dif_neg hvalid]
      simp only [reduceCtorEq, false_iff, Option.some.injEq]
      rintro rfl
      exact hvalid c.valid

/-- A numeral has no brace in it. -/
theorem ne_of_mem_withSign (hdigits : IsNumeral digits) (hd : d ∈ withSign signed digits) :
    d ≠ '\x7b' ∧ d ≠ '\x7d' := by
  have hplain : d = '+' ∨ (hexadecimalDigit? d).isSome := by
    cases signed with
    | true =>
      rcases List.mem_cons.1 hd with rfl | hd
      · exact .inl rfl
      · exact .inr (hdigits.2 d hd)
    | false => exact .inr (hdigits.2 d hd)
  constructor <;> rintro rfl <;> revert hplain <;> decide

end Digits

section Reading

variable {inString signed finished : Bool} {c : Char} {cursor after : Cursor} {text : List Char}

/-- Nothing is passed behind the end of a text. -/
theorem advance_of_rest_eq_nil (h : cursor.rest = []) (n : Nat) : cursor.advance n = cursor := by
  obtain ⟨p, rest⟩ := cursor
  obtain rfl : rest = [] := h
  induction n with
  | zero => rfl
  | succ n ih => exact ih

/-- A cursor that leads over some characters to the end of a text passes them by passing more. -/
theorem Cursor.Leads.advance_of_le (h : cursor.Leads text after) (hend : after.rest = []) {n : Nat}
    (hle : text.length ≤ n) : cursor.advance n = after := by
  obtain ⟨m, rfl⟩ := Nat.exists_eq_add_of_le hle
  rw [advance_add, h.advance, advance_of_rest_eq_nil hend]

theorem Cursor.Leads.unique {after' : Cursor} (h : cursor.Leads text after)
    (h' : cursor.Leads text after') : after' = after := by
  rw [← h.advance, h'.advance]

/-- A cursor that leads over two texts leads over the second one behind the first. -/
theorem Cursor.Leads.drop {further : List Char} (h : cursor.Leads (text ++ further) after) :
    (cursor.advance text.length).Leads further after where
  rest := by rw [rest_advance, h.rest, List.append_assoc, List.drop_left]
  advance := by rw [← advance_add, ← List.length_append, h.advance]

/-- The characters that a cursor passes, as many as asked for unless the text ends. -/
theorem leads_take (cursor : Cursor) (n : Nat) :
    cursor.Leads (cursor.rest.take n) (cursor.advance n) ∧
      ((cursor.rest.take n).length = n ∨
        (cursor.rest.take n).length < n ∧ (cursor.advance n).rest = []) := by
  refine ⟨leads_advance n cursor, ?_⟩
  rw [rest_advance, List.length_take, List.drop_eq_nil_iff]
  omega

/-- Characters that a cursor leads over are those it passes when it is asked for as many, or for
more at the end of the text. -/
theorem Cursor.Leads.take_advance {n : Nat} (h : cursor.Leads text after)
    (hcount : text.length = n ∨ text.length < n ∧ after.rest = []) :
    cursor.rest.take n = text ∧ cursor.advance n = after := by
  rcases hcount with rfl | ⟨hlt, hend⟩
  · exact ⟨by rw [h.rest, List.take_left], h.advance⟩
  · refine ⟨?_, h.advance_of_le hend (Nat.le_of_lt hlt)⟩
    rw [h.rest, hend, List.append_nil, List.take_of_length_le (Nat.le_of_lt hlt)]

/-- Without a brace, the digits of an escape are as many characters as are asked for. -/
theorem unicodeDigits_of_ne (h : cursor.rest.head? ≠ some '\x7b') :
    unicodeDigits cursor = (cursor.rest.take 4, cursor.advance 4) := by
  have hbrace : cursor.startsWith ['\x7b'] = false := by
    obtain ⟨p, _ | ⟨d, s⟩⟩ := cursor
    · rfl
    · have hne : ¬ '\x7b' = d := fun heq => h (by rw [heq]; rfl)
      simp [startsWith, List.isPrefixOf, hne]
  rw [unicodeDigits, if_neg (by simp [hbrace])]

/-- Digits behind a brace end at the closing one or, if there is none, at the end of the text. -/
theorem unicodeDigits_brace {p : Position} {s : List Char} :
    (unicodeDigits ⟨p, '\x7b' :: s⟩).1 = s.takeWhile (· != '\x7d') ∧
      Leads ⟨p, '\x7b' :: s⟩ ('\x7b' :: (s.takeWhile (· != '\x7d') ++
        (s.dropWhile (· != '\x7d')).take 1)) (unicodeDigits ⟨p, '\x7b' :: s⟩).2 ∧
      (unicodeDigits ⟨p, '\x7b' :: s⟩).2.rest = (s.dropWhile (· != '\x7d')).tail := by
  have hbrace : Cursor.startsWith ⟨p, '\x7b' :: s⟩ ['\x7b'] = true := by
    simp [startsWith, List.isPrefixOf]
  rw [unicodeDigits, if_pos hbrace]
  refine ⟨rfl, ?_, by simp⟩
  have hskip := leads_skipWhile (· != '\x7d') (Cursor.next ⟨p, '\x7b' :: s⟩)
  have hnext := leads_advance 1 (Cursor.skipWhile (· != '\x7d') (Cursor.next ⟨p, '\x7b' :: s⟩))
  rw [rest_skipWhile] at hnext
  exact Leads.cons (hskip.trans hnext)

/-- Reads an escape by code point from its backslash on: in a string both forms, in a name those
with `u`. -/
def readEscape (inString : Bool) (cursor : Cursor) : Except LexicalError (Char × Cursor) :=
  if inString && cursor.next.startsWith ['x'] then hexadecimalEscape (cursor.advance 2)
  else unicodeEscape cursor

theorem readEscape_unicode {p : Position} {s : List Char} :
    readEscape inString ⟨p, '\\' :: 'u' :: s⟩ =
      match characterOfDigits? (unicodeDigits (Cursor.advance 2 ⟨p, '\\' :: 'u' :: s⟩)).1 with
      | some c => .ok (c, (unicodeDigits (Cursor.advance 2 ⟨p, '\\' :: 'u' :: s⟩)).2)
      | none => .error ⟨p, .invalidUnicodeEscape⟩ := by
  have hmarks : (Cursor.next ⟨p, '\\' :: 'u' :: s⟩).startsWith ['x'] = false ∧
      (Cursor.next ⟨p, '\\' :: 'u' :: s⟩).startsWith ['u'] = true := by
    simp [startsWith, List.isPrefixOf]
  have hread : readEscape inString ⟨p, '\\' :: 'u' :: s⟩ = unicodeEscape ⟨p, '\\' :: 'u' :: s⟩ := by
    rw [readEscape, hmarks.1, Bool.and_false, if_neg Bool.false_ne_true]
  exact hread.trans (if_pos hmarks.2)

theorem readEscape_hexadecimal {p : Position} {s : List Char} :
    readEscape true ⟨p, '\\' :: 'x' :: s⟩ =
      hexadecimalEscape (Cursor.advance 2 ⟨p, '\\' :: 'x' :: s⟩) := by
  have hmark : (Cursor.next ⟨p, '\\' :: 'x' :: s⟩).startsWith ['x'] = true := by
    simp [startsWith, List.isPrefixOf]
  rw [readEscape, hmark, Bool.and_true, if_pos rfl]

theorem head?_withSign_ne {digits : List Char} (hdigits : IsNumeral digits) (rest : List Char) :
    (withSign signed digits ++ rest).head? ≠ some '\x7b' := by
  have hne : withSign signed digits ≠ [] := by
    cases signed with
    | true => exact List.cons_ne_nil _ _
    | false => exact hdigits.1
  rw [List.head?_append_of_ne_nil _ hne]
  intro hhead
  exact (ne_of_mem_withSign hdigits (List.mem_of_head? hhead)).1 rfl

/-- An escape without braces is read. -/
theorem readEscape_counted {mark : Char} {count : Nat} {digits : List Char}
    (hmark : DigitCount inString mark count) (hdigits : IsNumeral digits)
    (hvalue : hexadecimalValue digits = c.toNat)
    (hleads : cursor.Leads ('\\' :: mark :: withSign signed digits) after)
    (hcount : (withSign signed digits).length = count ∨
      (withSign signed digits).length < count ∧ after.rest = []) :
    readEscape inString cursor = .ok (c, after) := by
  have hcharacter : characterOfDigits? (withSign signed digits) = some c :=
    characterOfDigits?_eq_some_iff.2 ⟨signed, digits, rfl, hdigits, hvalue⟩
  have hbehind : (cursor.advance 2).Leads (withSign signed digits) after :=
    (show cursor.Leads (['\\', mark] ++ withSign signed digits) after from hleads).drop
  have hfirst : (cursor.advance 2).rest.head? ≠ some '\x7b' := by
    rw [hbehind.rest]
    exact head?_withSign_ne hdigits _
  obtain ⟨htake, hadvance⟩ := hbehind.take_advance hcount
  obtain ⟨p, rest⟩ := cursor
  obtain rfl : rest = _ := hleads.rest
  cases hmark with
  | four =>
    have hplain := unicodeDigits_of_ne hfirst
    rw [List.cons_append, List.cons_append, readEscape_unicode]
    rw [List.cons_append, List.cons_append] at hplain htake hadvance
    simp only [hplain, htake, hadvance, hcharacter]
  | two hstring =>
    subst hstring
    rw [List.cons_append, List.cons_append, readEscape_hexadecimal, hexadecimalEscape]
    rw [List.cons_append, List.cons_append] at htake hadvance
    simp only [htake, hadvance, hcharacter]

/-- An escape with braces is read, also with the end of the text in place of the closing one. -/
theorem readEscape_braced {digits closing : List Char} (hdigits : IsNumeral digits)
    (hvalue : hexadecimalValue digits = c.toNat)
    (hleads : cursor.Leads ('\\' :: 'u' :: '\x7b' :: (withSign signed digits ++ closing)) after)
    (hclosing : closing = ['\x7d'] ∨ closing = [] ∧ after.rest = []) :
    readEscape inString cursor = .ok (c, after) := by
  have hcharacter : characterOfDigits? (withSign signed digits) = some c :=
    characterOfDigits?_eq_some_iff.2 ⟨signed, digits, rfl, hdigits, hvalue⟩
  have hplain : ∀ d ∈ withSign signed digits, (d != '\x7d') = true := fun d hd => by
    simpa using (ne_of_mem_withSign hdigits hd).2
  have hbehind : (cursor.advance 2).Leads ('\x7b' :: (withSign signed digits ++ closing)) after :=
    (show cursor.Leads (['\\', 'u'] ++ '\x7b' :: (withSign signed digits ++ closing)) after
      from hleads).drop
  obtain ⟨p, rest⟩ := cursor
  obtain rfl : rest = _ := hleads.rest
  have hbody : (withSign signed digits ++ closing ++ after.rest).takeWhile (· != '\x7d') =
        withSign signed digits ∧
      ((withSign signed digits ++ closing ++ after.rest).dropWhile (· != '\x7d')).take 1 =
        closing := by
    rw [List.append_assoc, List.takeWhile_append_of_pos hplain, List.dropWhile_append_of_pos hplain]
    rcases hclosing with rfl | ⟨rfl, hend⟩
    · simp
    · simp [hend]
  obtain ⟨q, hadvance⟩ : ∃ q, Cursor.advance 2 ⟨p, '\\' :: 'u' :: '\x7b' ::
      (withSign signed digits ++ closing ++ after.rest)⟩ =
        ⟨q, '\x7b' :: (withSign signed digits ++ closing ++ after.rest)⟩ := ⟨_, rfl⟩
  obtain ⟨hread, hpassed, -⟩ := unicodeDigits_brace (p := q)
    (s := withSign signed digits ++ closing ++ after.rest)
  rw [hbody.1, hbody.2] at hpassed
  simp only [List.cons_append, hadvance] at hbehind ⊢
  rw [readEscape_unicode, hadvance]
  simp only [hread, hbody.1, hcharacter, hbehind.unique hpassed]

/-- An escape is read with its character, and its text is passed. -/
theorem readEscape_of_isEscape (h : IsEscape inString signed c finished text)
    (hleads : cursor.Leads text after) (hend : finished = true ∨ after.rest = []) :
    readEscape inString cursor = .ok (c, after) := by
  cases h with
  | counted hmark hdigits hvalue hcount =>
    exact readEscape_counted hmark hdigits hvalue hleads (.inl hcount)
  | counting hmark hdigits hvalue hcount =>
    have hlast : after.rest = [] := by simpa using hend
    exact readEscape_counted hmark hdigits hvalue hleads (.inr ⟨hcount, hlast⟩)
  | braced hdigits hvalue => exact readEscape_braced hdigits hvalue hleads (.inl rfl)
  | bracing hdigits hvalue =>
    have hlast : after.rest = [] := by simpa using hend
    rw [← List.append_nil (withSign _ _)] at hleads
    exact readEscape_braced hdigits hvalue hleads (.inr ⟨rfl, hlast⟩)

/-- Digits that are taken behind a backslash and a mark make an escape. -/
theorem exists_isEscape_counted {mark : Char} {count : Nat} {p : Position} {s : List Char}
    (hmark : DigitCount inString mark count)
    (h : characterOfDigits? (s.take count) = some c) :
    ∃ signed finished text, IsEscape inString signed c finished text ∧
      Leads ⟨p, '\\' :: mark :: s⟩ text
        ((Cursor.advance 2 ⟨p, '\\' :: mark :: s⟩).advance count) ∧
      (finished = true ∨ ((Cursor.advance 2 ⟨p, '\\' :: mark :: s⟩).advance count).rest = []) := by
  obtain ⟨signed, digits, htake, hdigits, hvalue⟩ := characterOfDigits?_eq_some_iff.1 h
  obtain ⟨hpassed, hcount⟩ := leads_take (Cursor.advance 2 ⟨p, '\\' :: mark :: s⟩) count
  have hbehind : (Cursor.advance 2 ⟨p, '\\' :: mark :: s⟩).rest = s := rfl
  rw [hbehind, htake] at hpassed hcount
  have hleads := Leads.trans (leads_advance 2 ⟨p, '\\' :: mark :: s⟩) hpassed
  rcases hcount with hcount | ⟨hcount, hend⟩
  · exact ⟨signed, true, _, .counted hmark hdigits hvalue hcount, hleads, .inl rfl⟩
  · exact ⟨signed, false, _, .counting hmark hdigits hvalue hcount, hleads, .inr hend⟩

/-- Digits that are taken behind a brace make an escape. -/
theorem exists_isEscape_braced {p : Position} {s : List Char}
    (h : characterOfDigits? (s.takeWhile (· != '\x7d')) = some c)
    (hafter : (unicodeDigits (Cursor.advance 2 ⟨p, '\\' :: 'u' :: '\x7b' :: s⟩)).2 = after) :
    ∃ signed finished text, IsEscape inString signed c finished text ∧
      Leads ⟨p, '\\' :: 'u' :: '\x7b' :: s⟩ text after ∧ (finished = true ∨ after.rest = []) := by
  obtain ⟨signed, digits, htake, hdigits, hvalue⟩ := characterOfDigits?_eq_some_iff.1 h
  obtain ⟨-, hpassed, hrest⟩ := unicodeDigits_brace (s := s)
    (p := (Cursor.advance 2 ⟨p, '\\' :: 'u' :: '\x7b' :: s⟩).position)
  rw [htake] at hpassed
  have hleads := Leads.trans (leads_advance 2 ⟨p, '\\' :: 'u' :: '\x7b' :: s⟩) hpassed
  obtain rfl := hafter
  rcases hclosing : s.dropWhile (· != '\x7d') with _ | ⟨d, further⟩
  · rw [hclosing, List.take_nil, List.append_nil] at hleads
    rw [hclosing] at hrest
    exact ⟨signed, false, _, .bracing hdigits hvalue, hleads, .inr hrest⟩
  · have hd : d = '\x7d' := by
      have hhead := List.head?_dropWhile_not (· != '\x7d') s
      rw [hclosing] at hhead
      simpa using hhead
    rw [hclosing, hd] at hleads
    exact ⟨signed, true, _, .braced hdigits hvalue, hleads, .inl rfl⟩

/-- What is read as an escape is one, and its text is passed. -/
theorem exists_isEscape_of_readEscape (hslash : cursor.rest.head? = some '\\')
    (h : readEscape inString cursor = .ok (c, after)) :
    ∃ signed finished text, IsEscape inString signed c finished text ∧ cursor.Leads text after ∧
      (finished = true ∨ after.rest = []) := by
  obtain ⟨p, rest⟩ := cursor
  obtain ⟨s, rfl⟩ := List.head?_eq_some_iff.1 hslash
  rcases s with _ | ⟨mark, s⟩
  · have hmarks : (Cursor.next ⟨p, ['\\']⟩).startsWith ['x'] = false ∧
        (Cursor.next ⟨p, ['\\']⟩).startsWith ['u'] = false := ⟨rfl, rfl⟩
    rw [readEscape, hmarks.1, Bool.and_false, if_neg Bool.false_ne_true, unicodeEscape, hmarks.2,
      if_neg Bool.false_ne_true] at h
    cases h
  by_cases hu : mark = 'u'
  · subst hu
    rw [readEscape_unicode] at h
    by_cases hbrace : s.head? = some '\x7b'
    · obtain ⟨s, rfl⟩ := List.head?_eq_some_iff.1 hbrace
      have hdigits : (unicodeDigits (Cursor.advance 2 ⟨p, '\\' :: 'u' :: '\x7b' :: s⟩)).1 =
          s.takeWhile (· != '\x7d') := unicodeDigits_brace.1
      split at h
      · rename_i hcharacter
        cases h
        rw [hdigits] at hcharacter
        exact exists_isEscape_braced hcharacter rfl
      · cases h
    · rw [unicodeDigits_of_ne hbrace] at h
      split at h
      · rename_i hcharacter
        cases h
        exact exists_isEscape_counted .four hcharacter
      · cases h
  · by_cases hx : inString = true ∧ mark = 'x'
    · obtain ⟨rfl, rfl⟩ := hx
      rw [readEscape_hexadecimal] at h
      unfold hexadecimalEscape at h
      dsimp only at h
      split at h
      · rename_i hcharacter
        cases h
        exact exists_isEscape_counted (.two rfl) hcharacter
      · cases h
    · have hmarks : (inString && (Cursor.next ⟨p, '\\' :: mark :: s⟩).startsWith ['x']) = false ∧
          (Cursor.next ⟨p, '\\' :: mark :: s⟩).startsWith ['u'] = false := by
        have hne : ¬ 'u' = mark := Ne.symm hu
        refine ⟨?_, by simp [startsWith, List.isPrefixOf, hne]⟩
        cases inString with
        | false => rfl
        | true =>
          have hother : ¬ 'x' = mark := fun heq => hx ⟨rfl, heq.symm⟩
          simp [startsWith, List.isPrefixOf, hother]
      rw [readEscape, hmarks.1, if_neg Bool.false_ne_true, unicodeEscape, hmarks.2,
        if_neg Bool.false_ne_true] at h
      cases h

/-- Read are the escapes, and no other text: exactly theirs is passed. -/
theorem readEscape_eq_ok_iff (hslash : cursor.rest.head? = some '\\') :
    readEscape inString cursor = .ok (c, after) ↔ ∃ signed finished text,
      IsEscape inString signed c finished text ∧ cursor.Leads text after ∧
        (finished = true ∨ after.rest = []) := by
  constructor
  · exact exists_isEscape_of_readEscape hslash
  · rintro ⟨signed, finished, text, hescape, hleads, hend⟩
    exact readEscape_of_isEscape hescape hleads hend

end Reading

/-- The readers of the texts that may hold escapes, names and strings, with what they are given. -/
inductive TextReader where
  | name (cursor : Cursor)
  | string (quote : Char) (hquote : quote ≠ '\\') (opened : Position) (cursor : Cursor)

namespace TextReader

/-- Which of them the reader of a lexeme calls. -/
inductive Begins : Cursor → TextReader → Prop where
  | name {p : Position} {c : Char} {s : List Char} (hstart : isNameStart c = true) :
      Begins ⟨p, c :: s⟩ (.name ⟨p, c :: s⟩)
  | privateName {p : Position} {s : List Char} (hstart : s.head?.any isNameStart = true) :
      Begins ⟨p, '#' :: s⟩ (.name (Cursor.next ⟨p, '#' :: s⟩))
  | double {p : Position} {s : List Char} :
      Begins ⟨p, '"' :: s⟩ (.string '"' (by decide) p (Cursor.next ⟨p, '"' :: s⟩))
  | single {p : Position} {s : List Char} :
      Begins ⟨p, '\'' :: s⟩ (.string '\'' (by decide) p (Cursor.next ⟨p, '\'' :: s⟩))

/-- How they go on behind the next character or escape. -/
inductive GoesOn : TextReader → TextReader → Prop where
  | part {p : Position} {c : Char} {s : List Char} (hpart : isNamePart c = true) :
      GoesOn (.name ⟨p, c :: s⟩) (.name (Cursor.next ⟨p, c :: s⟩))
  | nameEscape {p : Position} {c : Char} {s : List Char} {after : Cursor}
      (h : unicodeEscape ⟨p, '\\' :: s⟩ = .ok (c, after)) :
      GoesOn (.name ⟨p, '\\' :: s⟩) (.name after)
  | character {quote : Char} {hquote : quote ≠ '\\'} {opened p : Position} {c : Char}
      {s : List Char} (hline : isLineTerminator c = false) (hopen : c ≠ quote)
      (hescape : c ≠ '\\') :
      GoesOn (.string quote hquote opened ⟨p, c :: s⟩)
        (.string quote hquote opened (Cursor.next ⟨p, c :: s⟩))
  | stringEscape {quote : Char} {hquote : quote ≠ '\\'} {opened p : Position} {s : List Char}
      {decoded : List Char} {after : Cursor}
      (h : stringEscape opened ⟨p, '\\' :: s⟩ = .ok (decoded, after)) :
      GoesOn (.string quote hquote opened ⟨p, '\\' :: s⟩) (.string quote hquote opened after)

def Fails : TextReader → LexicalError → Prop
  | .name cursor, e => readName cursor = .error e
  | .string quote _ opened cursor, e => readStringLiteral quote opened cursor = .error e

end TextReader

def Comes (source : String) (reader : TextReader) : Prop :=
  ∃ before cursor first, Reading source (.lexeme before cursor) ∧
    TextReader.Begins cursor first ∧ Relation.ReflTransGen TextReader.GoesOn first reader

/-- Whether reading a source comes to an escape by code point, in a string or in a name. In a string
other characters behind a backslash stand for themselves or for one character each. -/
inductive MeetsEscape (source : String) : Bool → Cursor → Prop where
  | name {p : Position} {s : List Char} (h : Comes source (.name ⟨p, '\\' :: s⟩)) :
      MeetsEscape source false ⟨p, '\\' :: s⟩
  | string {quote : Char} {hquote : quote ≠ '\\'} {opened p : Position} {mark : Char}
      {s : List Char} (h : Comes source (.string quote hquote opened ⟨p, '\\' :: mark :: s⟩))
      (hmark : mark = 'u' ∨ mark = 'x') : MeetsEscape source true ⟨p, '\\' :: mark :: s⟩

section Failures

variable {source : String} {before : List Token} {cursor : Cursor} {e : LexicalError}

theorem fails_of_goesOn {caller called : TextReader} (h : TextReader.GoesOn caller called)
    (hfails : called.Fails e) : caller.Fails e := by
  cases h with
  | part hpart =>
    simp only [TextReader.Fails] at hfails ⊢
    rw [readName_part hpart, hfails]
    rfl
  | nameEscape h =>
    simp only [TextReader.Fails] at hfails ⊢
    rw [readName_escape h, hfails]
    rfl
  | character hline hopen hescape =>
    simp only [TextReader.Fails] at hfails ⊢
    rw [readStringLiteral_plain hline hopen hescape, hfails]
    rfl
  | @stringEscape quote hquote opened p s decoded after h =>
    simp only [TextReader.Fails] at hfails ⊢
    rw [readStringLiteral_escape hquote h, hfails]
    rfl

theorem fails_of_begins {reader : TextReader} (h : TextReader.Begins cursor reader)
    (hfails : reader.Fails e) : (Reader.lexeme before cursor).Fails e := by
  have hmapped {α β : Type} {outcome : Except LexicalError α} (f : α → β)
      (hread : outcome = .error e) : outcome.map f = .error e := by
    rw [hread]
    rfl
  cases h with
  | name hstart =>
    exact Reader.eq_error_of_map ((readLexeme_name hstart before).trans (hmapped _ hfails))
  | privateName hstart =>
    exact Reader.eq_error_of_map ((readLexeme_privateName hstart before).trans (hmapped _ hfails))
  | double =>
    exact Reader.eq_error_of_map ((readLexeme_string (.inl rfl) before _ _).trans
      (hmapped _ hfails))
  | single =>
    exact Reader.eq_error_of_map ((readLexeme_string (.inr rfl) before _ _).trans
      (hmapped _ hfails))

theorem fails_of_reach {first last : TextReader}
    (h : Relation.ReflTransGen TextReader.GoesOn first last) (hfails : last.Fails e) :
    first.Fails e := by
  induction h using Relation.ReflTransGen.head_induction_on with
  | refl => exact hfails
  | head hstep _ ih => exact fails_of_goesOn hstep ih

/-- The failure of a reader of a text that reading a source comes to is that of the source. -/
theorem readTokens_of_fails {reader : TextReader} (h : Comes source reader)
    (hfails : reader.Fails e) : readTokens source = .error e := by
  obtain ⟨before, cursor, first, hreading, hbegins, hgoes⟩ := h
  exact readTokens_eq_error_of_reading hreading
    (fails_of_begins hbegins (fails_of_reach hgoes hfails))

/-- In a string, the escapes with `u` and `x` are those by code point. -/
theorem stringEscape_of_mark {mark : Char} (hmark : mark = 'u' ∨ mark = 'x') (opened p : Position)
    (s : List Char) :
    stringEscape opened ⟨p, '\\' :: mark :: s⟩ =
      (readEscape true ⟨p, '\\' :: mark :: s⟩).map fun read => ([read.1], read.2) := by
  unfold stringEscape
  rcases hmark with rfl | rfl
  · have hescape : readEscape true ⟨p, '\\' :: 'u' :: s⟩ = unicodeEscape ⟨p, '\\' :: 'u' :: s⟩ :=
      if_neg (by simp [startsWith, List.isPrefixOf])
    simp only [rest_next, List.tail_cons, beq_self_eq_true, if_true, hescape]
    cases unicodeEscape ⟨p, '\\' :: 'u' :: s⟩ <;> rfl
  · rw [readEscape_hexadecimal]
    simp only [rest_next, List.tail_cons, beq_self_eq_true, if_true]
    rw [if_neg (by decide)]
    cases hexadecimalEscape (Cursor.advance 2 ⟨p, '\\' :: 'x' :: s⟩) <;> rfl

/-- An escape that is not read makes the source fail, with the same error. -/
theorem readTokens_of_readEscape {inString : Bool} (h : MeetsEscape source inString cursor)
    (hfails : readEscape inString cursor = .error e) : readTokens source = .error e := by
  cases h with
  | @name p s h =>
    refine readTokens_of_fails h ?_
    have hescape : unicodeEscape ⟨p, '\\' :: s⟩ = .error e := by
      rwa [readEscape, Bool.false_and, if_neg Bool.false_ne_true] at hfails
    rw [TextReader.Fails, readName_escape_error hescape]
  | @string quote hquote opened p mark s h hmark =>
    refine readTokens_of_fails h ?_
    have hescape : stringEscape opened ⟨p, '\\' :: mark :: s⟩ = .error e := by
      rw [stringEscape_of_mark hmark, hfails]
      rfl
    exact readStringLiteral_escape_error hquote hescape

/-- A string that the text ends behind an escape of makes the source fail. -/
theorem readTokens_of_cutString (h : MeetsEscape source true cursor) {c : Char} {after : Cursor}
    (hread : readEscape true cursor = .ok (c, after)) (hend : after.rest = []) :
    ∃ e, readTokens source = .error e := by
  cases h with
  | @string quote hquote opened p mark s h hmark =>
    have hescape : stringEscape opened ⟨p, '\\' :: mark :: s⟩ = .ok ([c], after) := by
      rw [stringEscape_of_mark hmark, hread]
      rfl
    obtain ⟨q, rest⟩ := after
    obtain rfl : rest = [] := hend
    refine ⟨⟨opened, .unterminatedString⟩, readTokens_of_fails h ?_⟩
    refine fails_of_goesOn (.stringEscape hescape) ?_
    exact readStringLiteral_nil quote opened q

end Failures

/-- Which escapes are accepted. Wherever reading a source comes to an escape by code point, in a
name or in a string, it reads those of the grammar, with exactly their text, and besides them only
those with a plus sign in front of the digits and those that the end of the text cuts off. All else
makes the source fail, and so does the end of the text within a string. -/
theorem readEscape_iff_isEscape {source : String} {inString : Bool} {cursor : Cursor}
    (h : MeetsEscape source inString cursor) :
    (∀ c after, readEscape inString cursor = .ok (c, after) ↔ ∃ signed finished text,
        IsEscape inString signed c finished text ∧ cursor.Leads text after ∧
          (finished = true ∨ after.rest = [])) ∧
      (∀ e, readEscape inString cursor = .error e → readTokens source = .error e) ∧
      (∀ c after, inString = true → readEscape inString cursor = .ok (c, after) →
        after.rest = [] → ∃ e, readTokens source = .error e) := by
  have hslash : cursor.rest.head? = some '\\' := by
    cases h <;> rfl
  refine ⟨fun c after => readEscape_eq_ok_iff hslash, fun e => readTokens_of_readEscape h, ?_⟩
  rintro c after rfl hread hend
  exact readTokens_of_cutString h hread hend

/-- A source comes to the text that it starts with. -/
theorem comes_start {source : String} {c : Char} {s : List Char} (hsource : source.toList = c :: s)
    (hline : ['#', '!'].isPrefixOf (c :: s) = false) (hsettled : settled (c :: s) = true)
    {reader : TextReader} (h : TextReader.Begins ⟨.start, c :: s⟩ reader) : Comes source reader :=
  ⟨[], ⟨.start, c :: s⟩, reader, reading_start hsource hline hsettled, h, .refl⟩

/-- An astral character in braces is read, and the quote behind it is left. -/
theorem readEscape_iff_isEscape_braced :
    MeetsEscape "'\\u\x7b1F600\x7d'" true ⟨⟨1, 2⟩, "\\u\x7b1F600\x7d'".toList⟩ ∧
      readEscape true ⟨⟨1, 2⟩, "\\u\x7b1F600\x7d'".toList⟩ =
        .ok (Char.ofNat 0x1F600, ⟨⟨1, 11⟩, ['\'']⟩) := by
  have hmeets : MeetsEscape "'\\u\x7b1F600\x7d'" true ⟨⟨1, 2⟩, "\\u\x7b1F600\x7d'".toList⟩ :=
    .string (comes_start rfl (by decide) (by decide) .single) (.inl rfl)
  have hdigits : Text.IsNumeral "1F600".toList := by decide
  have hescape : IsEscape true false (Char.ofNat 0x1F600) true
      ('\\' :: 'u' :: '\x7b' :: (Text.withSign false "1F600".toList ++ ['\x7d'])) :=
    .braced hdigits (by decide)
  exact ⟨hmeets, ((readEscape_iff_isEscape hmeets).1 _ _).2
    ⟨false, true, _, hescape, ⟨rfl, rfl⟩, .inl rfl⟩⟩

/-- A plus sign stands where the grammar has the first of four digits, and yet a name is read. -/
theorem readTokens_signedEscape :
    MeetsEscape "\\u+041" false (.start "\\u+041") ∧
      (¬ ∃ c text after, IsEscape false false c true text ∧
        (Cursor.start "\\u+041").Leads text after) ∧
      readTokens "\\u+041" = .ok [⟨.name, "A", ⟨1, 1⟩, false⟩] := by
  have hmeets : MeetsEscape "\\u+041" false (.start "\\u+041") :=
    .name (comes_start rfl (by decide) (by decide) (.name (by decide)))
  refine ⟨hmeets, ?_, ?_⟩
  · rintro ⟨c, text, after, hescape, hleads⟩
    have hrest : '\\' :: 'u' :: '+' :: "041".toList = text ++ after.rest := hleads.rest
    have hplus : ¬ (hexadecimalDigit? '+').isSome := by decide
    cases hescape with
    | @counted mark count digits _ hdigits =>
      obtain ⟨d, digits, rfl⟩ := List.exists_cons_of_ne_nil hdigits.1
      have hfirst : d = '+' := by
        simp only [withSign, Bool.false_eq_true, if_false, List.cons_append,
          List.cons.injEq] at hrest
        exact hrest.2.2.1.symm
      exact hplus (hdigits.2 '+' (hfirst ▸ .head _))
    | braced => simp at hrest
  · have hleads : (Cursor.start "\\u+041").Leads ('\\' :: 'u' :: Text.withSign true "041".toList)
        ⟨⟨1, 7⟩, []⟩ := ⟨rfl, rfl⟩
    have hescape : readEscape false (.start "\\u+041") = .ok ('A', ⟨⟨1, 7⟩, []⟩) :=
      readEscape_counted .four (by decide) (by decide) hleads (.inl rfl)
    rw [readEscape, Bool.false_and, if_neg Bool.false_ne_true] at hescape
    have hread : readName ⟨.start, '\\' :: "u+041".toList⟩ = .ok (['A'], ⟨⟨1, 7⟩, []⟩) :=
      (readName_escape hescape).trans (by rw [readName_nil]; rfl)
    have hlexeme := readLexeme_name (c := '\\') (p := .start) (s := "u+041".toList) (by decide) []
    rw [hread] at hlexeme
    exact readTokens_of_lexeme rfl (by decide) (by decide) (by decide) hlexeme rfl

end RouteTable.Script
