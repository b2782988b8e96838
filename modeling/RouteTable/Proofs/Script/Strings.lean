import RouteTable.Proofs.Script.Escapes
import RouteTable.Proofs.Script.Positions
import RouteTable.Proofs.Text.Utf16

/-!
String literals and the text that their value is in UTF-16. A literal is read as that text unless
one of its parts is refused: a line or paragraph separator that stands for itself, or an escape for
a half of a pair of surrogates. The first such part decides the error.
-/

namespace RouteTable.Script

open Cursor Text

/-- A part of a string literal: a character that stands for itself, one with a backslash in front,
the end of a line with a backslash in front, or an escape by code point, without or with braces. -/
inductive StringPart where
  | raw (c : Char)
  | simple (c : Char)
  | lineEnd (ended : List Char)
  | counted (mark : Char) (digits : List Char)
  | braced (digits : List Char)

/-- What a backslash and a character stand for in the language, when they are no escape by code
point and end no line. -/
def escapedUnits (c : Char) : List Nat :=
  match c with
  | 'b' => [0x08]
  | 't' => [0x09]
  | 'n' => [0x0A]
  | 'v' => [0x0B]
  | 'f' => [0x0C]
  | 'r' => [0x0D]
  | '0' => [0x00]
  | c => codeUnits c.toNat

namespace StringPart

def text : StringPart → List Char
  | raw c => [c]
  | simple c => ['\\', c]
  | lineEnd ended => '\\' :: ended
  | counted mark digits => '\\' :: mark :: digits
  | braced digits => '\\' :: 'u' :: '\x7b' :: (digits ++ ['\x7d'])

/-- The code units that a part adds to the value of its literal. -/
def units : StringPart → List Nat
  | raw c => codeUnits c.toNat
  | simple c => escapedUnits c
  | lineEnd _ => []
  | counted _ digits => [hexadecimalValue digits]
  | braced digits => codeUnits (hexadecimalValue digits)

/-- Whether a part may stand in a literal with a given quote. -/
inductive IsWritten (quote : Char) : StringPart → Prop where
  | raw {c : Char} (hquote : c ≠ quote) (hescape : c ≠ '\\') (hends : c ≠ '\n' ∧ c ≠ '\r') :
      IsWritten quote (raw c)
  | simple {c : Char} (hmark : c ≠ 'u' ∧ c ≠ 'x') (hline : isLineTerminator c = false)
      (hdigit : c.isDigit = true → c = '0') : IsWritten quote (simple c)
  | lineEnd {ended : List Char}
      (hends : ended ∈ [['\n'], ['\r', '\n'], ['\r'], ['\u2028'], ['\u2029']]) :
      IsWritten quote (lineEnd ended)
  | counted {mark : Char} {digits : List Char} (hmark : DigitCount true mark digits.length)
      (hdigits : IsNumeral digits) : IsWritten quote (counted mark digits)
  | braced {digits : List Char} (hdigits : IsNumeral digits)
      (hmax : hexadecimalValue digits < 0x110000) : IsWritten quote (braced digits)

/-- Whether the reader refuses a part, although the language has it. -/
def IsRefused : StringPart → Prop
  | raw c => breaksLiteral c = true
  | simple _ | lineEnd _ => False
  | counted _ digits | braced digits => IsSurrogate (hexadecimalValue digits)

instance : DecidablePred IsRefused
  | raw _ => inferInstanceAs (Decidable (_ = true))
  | simple _ | lineEnd _ => inferInstanceAs (Decidable False)
  | counted _ _ | braced _ => inferInstanceAs (Decidable (IsSurrogate _))

/-- The error for a part that is refused at a position of a literal. -/
def refusal (opened p : Position) : StringPart → LexicalError
  | raw _ => ⟨opened, .unterminatedString⟩
  | _ => ⟨p, .invalidUnicodeEscape⟩

end StringPart

def stringOf (quote : Char) (parts : List StringPart) : String :=
  String.ofList (quote :: (parts.flatMap StringPart.text ++ [quote]))

section Parts

variable {quote : Char} {part : StringPart} {s : List Char}

theorem units_simple (c : Char) : escapedUnits c = codeUnits (simpleEscape c).toNat := by
  unfold escapedUnits
  split <;> try rfl
  rename_i hb ht hn hv hf hr h0
  have hself : simpleEscape c = c := by
    unfold simpleEscape
    split <;> first | rfl | contradiction
  rw [hself]

theorem head?_text_ne (h : part.IsWritten quote) (s : List Char) :
    (part.text ++ s).head? ≠ some '\n' := by
  cases h with
  | raw hquote hescape hends => simpa [StringPart.text] using hends.1
  | _ => simp [StringPart.text]

theorem head?_texts_ne {parts : List StringPart} (h : ∀ part ∈ parts, part.IsWritten quote)
    (happart : s.head? ≠ some '\n') : (parts.flatMap StringPart.text ++ s).head? ≠ some '\n' := by
  cases parts with
  | nil => exact happart
  | cons part parts =>
    rw [List.flatMap_cons, List.append_assoc]
    exact head?_text_ne (h _ (.head _)) _

/-- A backslash in front of the end of a line stands for nothing. -/
theorem stringEscape_lineEnd {ended : List Char}
    (hends : ended ∈ [['\n'], ['\r', '\n'], ['\r'], ['\u2028'], ['\u2029']])
    (happart : s.head? ≠ some '\n') (opened p : Position) :
    stringEscape opened ⟨p, '\\' :: ended ++ s⟩ =
      .ok ([], Cursor.advance ('\\' :: ended).length ⟨p, '\\' :: ended ++ s⟩) := by
  simp only [List.mem_cons, List.not_mem_nil, or_false] at hends
  rcases hends with rfl | rfl | rfl | rfl | rfl
  · rfl
  · rfl
  · have hfeed : (s.head? == some '\n') = false := by simpa using happart
    unfold stringEscape
    simp [isLineTerminator, hfeed]
  · rfl
  · rfl

/-- An escape by code point that is not refused is one of the reader's for the same code units. -/
theorem isEscape_of_isWritten (hescape : part matches .counted .. | .braced ..)
    (h : part.IsWritten quote) (hfine : ¬ part.IsRefused) :
    ∃ c, utf16 [c] = part.units ∧ IsEscape true false c true part.text := by
  cases h with
  | @counted mark digits hmark hdigits =>
    have hlt := hexadecimalValue_lt digits
    have hmax : 16 ^ digits.length ≤ 0x10000 := by
      rcases hmark.eq_or_eq with ⟨-, hcount⟩ | ⟨-, hcount⟩ <;> rw [hcount] <;> decide
    obtain ⟨c, hc⟩ := exists_toNat_eq hfine (by omega)
    have hescape : IsEscape true false c true ('\\' :: mark :: withSign false digits) :=
      .counted hmark hdigits hc.symm rfl
    refine ⟨c, ?_, hescape⟩
    rw [utf16, List.flatMap_singleton, hc, codeUnits, if_pos (Nat.lt_of_lt_of_le hlt hmax)]
    rfl
  | @braced digits hdigits hmax =>
    obtain ⟨c, hc⟩ := exists_toNat_eq hfine hmax
    have hescape : IsEscape true false c true
        ('\\' :: 'u' :: '\x7b' :: (withSign false digits ++ ['\x7d'])) :=
      .braced hdigits hc.symm
    refine ⟨c, ?_, hescape⟩
    rw [utf16, List.flatMap_singleton, hc]
    rfl
  | _ => simp at hescape

/-- An escape by code point is read as its character. -/
theorem readStringLiteral_isEscape {c : Char} {text : List Char} (hquote : quote ≠ '\\')
    (h : IsEscape true false c true text) (opened p : Position) :
    readStringLiteral quote opened ⟨p, text ++ s⟩ =
      (readStringLiteral quote opened (Cursor.advance text.length ⟨p, text ++ s⟩)).map
        fun read => ([c] ++ read.1, read.2) := by
  have hleads : Leads ⟨p, text ++ s⟩ text (Cursor.advance text.length ⟨p, text ++ s⟩) :=
    ⟨by simp, rfl⟩
  have hread := readEscape_of_isEscape h hleads (.inl rfl)
  obtain ⟨mark, further, hmark, rfl⟩ : ∃ mark further, (mark = 'u' ∨ mark = 'x') ∧
      text = '\\' :: mark :: further := by
    cases h with
    | counted hmark => exact ⟨_, _, hmark.eq_or_eq.imp And.left And.left, rfl⟩
    | braced => exact ⟨_, _, .inl rfl, rfl⟩
  rw [List.cons_append, List.cons_append] at hread ⊢
  refine readStringLiteral_escape hquote ?_
  rw [stringEscape_of_mark hmark, hread]
  rfl

/-- A part that is not refused is read as the text of its code units. -/
theorem readStringLiteral_part (hquote : quote ≠ '\\') (h : part.IsWritten quote)
    (hfine : ¬ part.IsRefused) (happart : s.head? ≠ some '\n') :
    ∃ value, utf16 value = part.units ∧ ∀ opened p,
      readStringLiteral quote opened ⟨p, part.text ++ s⟩ =
        (readStringLiteral quote opened (Cursor.advance part.text.length ⟨p, part.text ++ s⟩)).map
          fun read => (value ++ read.1, read.2) := by
  cases part with
  | raw c =>
    cases h with
    | raw hopen hescape hends =>
      have hline : isLineTerminator c = false := by
        have hbreaks : breaksLiteral c = false := by simpa [StringPart.IsRefused] using hfine
        simp only [breaksLiteral, Bool.or_eq_false_iff, beq_eq_false_iff_ne] at hbreaks
        simp [isLineTerminator, hends, hbreaks]
      refine ⟨[c], List.flatMap_singleton _ _, fun opened p => ?_⟩
      exact readStringLiteral_plain hline hopen hescape
  | simple c =>
    cases h with
    | simple hmark hline =>
      refine ⟨[simpleEscape c], ?_, fun opened p => ?_⟩
      · rw [utf16, List.flatMap_singleton, ← units_simple, StringPart.units]
      · exact readStringLiteral_escape hquote (stringEscape_simple hmark.1 hmark.2 hline opened p s)
  | lineEnd ended =>
    cases h with
    | lineEnd hends =>
      refine ⟨[], rfl, fun opened p => ?_⟩
      obtain ⟨d, further, rfl⟩ : ∃ d further, ended = d :: further := by
        refine List.exists_cons_of_ne_nil ?_
        rintro rfl
        simp at hends
      exact readStringLiteral_escape hquote (stringEscape_lineEnd hends happart opened p)
  | counted mark digits =>
    obtain ⟨c, hunits, hescape⟩ := isEscape_of_isWritten rfl h hfine
    exact ⟨[c], hunits, readStringLiteral_isEscape hquote hescape⟩
  | braced digits =>
    obtain ⟨c, hunits, hescape⟩ := isEscape_of_isWritten rfl h hfine
    exact ⟨[c], hunits, readStringLiteral_isEscape hquote hescape⟩

/-- A half of a pair of surrogates is no character. -/
theorem characterOfDigits?_eq_none {digits : List Char} (hdigits : IsNumeral digits)
    (h : IsSurrogate (hexadecimalValue digits)) : characterOfDigits? digits = none := by
  have hvalue : hexadecimal? digits = some (hexadecimalValue digits) :=
    hexadecimal?_eq_some_iff.2 ⟨false, digits, rfl, hdigits, rfl⟩
  have hinvalid : ¬ (hexadecimalValue digits).isValidChar := by
    rw [IsSurrogate] at h
    rw [Nat.isValidChar]
    omega
  rw [characterOfDigits?, hvalue]
  exact dif_neg hinvalid

/-- The digits of an escape are those that the reader takes. -/
theorem unicodeDigits_counted {digits : List Char} (hdigits : IsNumeral digits)
    (hcount : digits.length = 4) (p : Position) :
    (unicodeDigits ⟨p, digits ++ s⟩).1 = digits := by
  have hfirst : (Cursor.mk p (withSign false digits ++ s)).rest.head? ≠ some '\x7b' :=
    head?_withSign_ne hdigits s
  rw [show digits = withSign false digits from rfl, unicodeDigits_of_ne hfirst]
  exact List.take_left' hcount

theorem unicodeDigits_braced {digits : List Char} (hdigits : IsNumeral digits) (p : Position) :
    (unicodeDigits ⟨p, '\x7b' :: (digits ++ '\x7d' :: s)⟩).1 = digits := by
  have hplain : ∀ d ∈ digits, (d != '\x7d') = true := by
    intro d hd
    have hmem : d ∈ withSign false digits := hd
    simpa using (ne_of_mem_withSign hdigits hmem).2
  rw [unicodeDigits_brace.1, List.takeWhile_append_of_pos hplain]
  simp

/-- A part that is refused is where reading the literal ends. -/
theorem readStringLiteral_refused (hquote : quote ≠ '\\') (h : part.IsWritten quote)
    (hrefused : part.IsRefused) (opened p : Position) :
    readStringLiteral quote opened ⟨p, part.text ++ s⟩ = .error (part.refusal opened p) := by
  cases h with
  | @raw c =>
    have hline : isLineTerminator c = true := by
      simp only [StringPart.IsRefused, breaksLiteral, Bool.or_eq_true, beq_iff_eq] at hrefused
      rcases hrefused with rfl | rfl <;> decide
    exact readStringLiteral_lineEnd hline
  | simple => exact hrefused.elim
  | lineEnd => exact hrefused.elim
  | @counted mark digits hmark hdigits =>
    obtain ⟨rfl, hcount⟩ : mark = 'u' ∧ digits.length = 4 := by
      refine hmark.eq_or_eq.resolve_right ?_
      rintro ⟨-, hcount⟩
      have hlt := hexadecimalValue_lt digits
      have hle : 0xD800 ≤ hexadecimalValue digits := hrefused.1
      rw [hcount] at hlt
      omega
    rw [StringPart.text, List.cons_append, List.cons_append]
    refine readStringLiteral_escape_error hquote ?_
    have hbehind : Cursor.advance 2 ⟨p, '\\' :: 'u' :: (digits ++ s)⟩ =
        ⟨_, digits ++ s⟩ := rfl
    rw [stringEscape_of_mark (.inl rfl), readEscape_unicode, hbehind,
      unicodeDigits_counted hdigits hcount, characterOfDigits?_eq_none hdigits hrefused]
    rfl
  | @braced digits hdigits =>
    rw [StringPart.text, List.cons_append, List.cons_append, List.cons_append, List.append_assoc]
    refine readStringLiteral_escape_error hquote ?_
    have hbehind : Cursor.advance 2 ⟨p, '\\' :: 'u' :: '\x7b' :: (digits ++ (['\x7d'] ++ s))⟩ =
        ⟨_, '\x7b' :: (digits ++ '\x7d' :: s)⟩ := rfl
    rw [stringEscape_of_mark (.inl rfl), readEscape_unicode, hbehind,
      unicodeDigits_braced hdigits, characterOfDigits?_eq_none hdigits hrefused]
    rfl

/-- Parts none of which is refused are read as the text of their code units. -/
theorem readStringLiteral_parts {parts : List StringPart} (hquote : quote ≠ '\\')
    (hwritten : ∀ part ∈ parts, part.IsWritten quote) (hfine : ∀ part ∈ parts, ¬ part.IsRefused)
    (happart : s.head? ≠ some '\n') :
    ∃ value, utf16 value = parts.flatMap StringPart.units ∧ ∀ opened p,
      readStringLiteral quote opened ⟨p, parts.flatMap StringPart.text ++ s⟩ =
        (readStringLiteral quote opened (Cursor.advance (parts.flatMap StringPart.text).length
          ⟨p, parts.flatMap StringPart.text ++ s⟩)).map fun read => (value ++ read.1, read.2) := by
  induction parts with
  | nil =>
    refine ⟨[], rfl, fun opened p => ?_⟩
    change _ = (readStringLiteral quote opened ⟨p, s⟩).map id
    rw [Except.map_id]
    rfl
  | cons part parts ih =>
    rw [List.forall_mem_cons] at hwritten hfine
    obtain ⟨others, hothers, hrest⟩ := ih hwritten.2 hfine.2
    obtain ⟨value, hvalue, hfirst⟩ := readStringLiteral_part hquote hwritten.1 hfine.1
      (head?_texts_ne hwritten.2 happart)
    refine ⟨value ++ others, by rw [utf16_append, hvalue, hothers, List.flatMap_cons],
      fun opened p => ?_⟩
    obtain ⟨q, hbehind⟩ :=
      Cursor.advance_append p part.text (parts.flatMap StringPart.text ++ s)
    rw [List.flatMap_cons, List.append_assoc, hfirst, List.length_append, advance_add,
      hbehind, hrest]
    generalize readStringLiteral quote opened _ = outcome
    cases outcome with
    | error => rfl
    | ok read => simp [Except.map]

end Parts

section Literal

variable {quote : Char} {parts : List StringPart}

theorem ne_of_isQuote (hquote : quote = '"' ∨ quote = '\'') : quote ≠ '\\' ∧ quote ≠ '\n' := by
  rcases hquote with rfl | rfl <;> decide

theorem toList_stringOf (quote : Char) (parts : List StringPart) :
    (stringOf quote parts).toList = quote :: (parts.flatMap StringPart.text ++ [quote]) :=
  String.toList_ofList

/-- A literal with no refused part is one token, with the text of its code units. -/
theorem readTokens_stringOf (hquote : quote = '"' ∨ quote = '\'')
    (hwritten : ∀ part ∈ parts, part.IsWritten quote)
    (hfine : ∀ part ∈ parts, ¬ part.IsRefused) {value : String}
    (hvalue : parts.flatMap StringPart.units = utf16 value.toList) :
    readTokens (stringOf quote parts) = .ok [⟨.string, value, .start, false⟩] := by
  obtain ⟨hne, hend⟩ := ne_of_isQuote hquote
  obtain ⟨text, hunits, hread⟩ := readStringLiteral_parts (s := [quote]) hne hwritten hfine
    (by simpa using hend)
  obtain rfl : text = value.toList := utf16_injective (hunits.trans hvalue)
  have hclose (opened q : Position) : readStringLiteral quote opened ⟨q, [quote]⟩ =
      .ok ([], Cursor.next ⟨q, [quote]⟩) := by
    have hline : isLineTerminator quote = false := by
      rcases hquote with rfl | rfl <;> decide
    exact readStringLiteral_quote hline
  have hlexeme := readLexeme_string hquote [] .start (parts.flatMap StringPart.text ++ [quote])
  obtain ⟨q, hbehind⟩ := Cursor.advance_append (Position.start.step quote _)
    (parts.flatMap StringPart.text) [quote]
  rw [Cursor.next, hread, hbehind, hclose] at hlexeme
  simp only [Except.map, List.append_nil, String.ofList_toList] at hlexeme
  refine readTokens_of_lexeme (toList_stringOf quote parts) ?_ ?_ (by decide) hlexeme rfl
  · rcases hquote with rfl | rfl <;> rfl
  · rcases hquote with rfl | rfl <;> rfl

/-- Passing a text from the start of a source leads to the position behind it. -/
theorem advance_start {text rest : List Char} (h : EndsApart text rest) :
    Cursor.advance text.length ⟨.start, text ++ rest⟩ = ⟨positionBehind text, rest⟩ := by
  refine (Cursor.eq_of_rest ((rest_advance _ _).trans (List.drop_left ..))).trans ?_
  rw [position_advance _ h, positionBehind]
  split <;> rfl

/-- A literal with a refused part fails with the error for the first one. -/
theorem readTokens_stringOf_refused (hquote : quote = '"' ∨ quote = '\'')
    (hwritten : ∀ part ∈ parts, part.IsWritten quote) {passed further : List StringPart}
    {part : StringPart} (hparts : parts = passed ++ part :: further)
    (hfine : ∀ part ∈ passed, ¬ part.IsRefused) (hrefused : part.IsRefused) :
    readTokens (stringOf quote parts) =
      .error (part.refusal .start (positionBehind (quote :: passed.flatMap StringPart.text))) := by
  subst hparts
  obtain ⟨hne, hend⟩ := ne_of_isQuote hquote
  have hpart : part.IsWritten quote := hwritten part (by simp)
  have happart := head?_text_ne hpart (further.flatMap StringPart.text ++ [quote])
  obtain ⟨text, -, hread⟩ := readStringLiteral_parts hne
    (fun part hmem => hwritten part (List.mem_append_left _ hmem)) hfine happart
  -- What is left behind the parts that are read is the refused one, where the error points.
  obtain ⟨left, hleft⟩ :
      ∃ left, left = part.text ++ (further.flatMap StringPart.text ++ [quote]) := ⟨_, rfl⟩
  rw [← hleft] at happart hread
  have hsource : (stringOf quote (passed ++ part :: further)).toList =
      quote :: (passed.flatMap StringPart.text ++ left) := by
    rw [toList_stringOf, hleft]
    simp
  have hfails : readStringLiteral quote .start
      (Cursor.next ⟨.start, quote :: (passed.flatMap StringPart.text ++ left)⟩) =
        .error (part.refusal .start
          (positionBehind (quote :: passed.flatMap StringPart.text))) := by
    have hapart : EndsApart (quote :: passed.flatMap StringPart.text) left := fun h => happart h.2
    have hbehind : Cursor.advance (passed.flatMap StringPart.text).length
        ⟨Position.start.step quote (passed.flatMap StringPart.text ++ left),
          passed.flatMap StringPart.text ++ left⟩ =
        ⟨positionBehind (quote :: passed.flatMap StringPart.text), left⟩ :=
      advance_start hapart
    rw [Cursor.next, hread, hbehind, hleft, readStringLiteral_refused hne hpart hrefused]
    rfl
  rcases hquote with rfl | rfl
  · exact readTokens_of_fails (comes_start hsource rfl rfl .double) hfails
  · exact readTokens_of_fails (comes_start hsource rfl rfl .single) hfails

end Literal

/-- Which literals are read as the text that their value is. A literal whose code units are those of
a text is one token with that text if none of its parts is refused, and otherwise the first that is
decides the error: a separator that stands for itself leaves the literal open, and half of a pair of
surrogates is not a valid escape. -/
theorem readTokens_stringOf_iff {quote : Char} {parts : List StringPart} {value : String}
    (hquote : quote = '"' ∨ quote = '\'') (hwritten : ∀ part ∈ parts, part.IsWritten quote)
    (hvalue : parts.flatMap StringPart.units = utf16 value.toList) :
    (readTokens (stringOf quote parts) = .ok [⟨.string, value, .start, false⟩] ↔
        ∀ part ∈ parts, ¬ part.IsRefused) ∧
      ∀ passed part further, parts = passed ++ part :: further →
        (∀ part ∈ passed, ¬ part.IsRefused) → part.IsRefused →
        readTokens (stringOf quote parts) =
          .error (part.refusal .start
            (positionBehind (quote :: passed.flatMap StringPart.text))) := by
  have hfirst (passed : List StringPart) (part : StringPart) (further : List StringPart)
      (hparts : parts = passed ++ part :: further) (hfine : ∀ part ∈ passed, ¬ part.IsRefused)
      (hrefused : part.IsRefused) :=
    readTokens_stringOf_refused hquote hwritten hparts hfine hrefused
  refine ⟨⟨fun hread => ?_, fun hfine => readTokens_stringOf hquote hwritten hfine hvalue⟩, hfirst⟩
  cases hfind : parts.find? fun part => decide part.IsRefused with
  | none => simpa using hfind
  | some part =>
    rw [List.find?_eq_some_iff_append] at hfind
    obtain ⟨hrefused, passed, further, hparts, hfine⟩ := hfind
    have hfails := hfirst passed part further hparts (by simpa using hfine)
      (by simpa using hrefused)
    cases hread.symm.trans hfails

/-- An escape with two digits, the end of a line, an astral character and a quote of the other kind
are read as the characters that they stand for. -/
theorem readTokens_stringOf_mixed :
    readTokens "'\\x41\\\r\n\\u\x7b1F600\x7d\"'" =
      .ok [⟨.string, String.ofList ['A', Char.ofNat 0x1F600, '"'], .start, false⟩] := by
  let parts : List StringPart := [.counted 'x' "41".toList, .lineEnd ['\r', '\n'],
    .braced "1F600".toList, .raw '"']
  have hwritten : ∀ part ∈ parts, part.IsWritten '\'' := by
    simp only [parts, List.forall_mem_cons, List.not_mem_nil, false_implies, implies_true, and_true]
    exact ⟨.counted (.two rfl) (by decide), .lineEnd (by decide), .braced (by decide) (by decide),
      .raw (by decide) (by decide) (by decide)⟩
  have hvalue : parts.flatMap StringPart.units =
      utf16 (String.ofList ['A', Char.ofNat 0x1F600, '"']).toList := by decide
  exact (readTokens_stringOf_iff (.inr rfl) hwritten hvalue).1.2 (by decide)

/-- The two escapes of a pair of surrogates are the code units of one character, and a separator is
that of itself, but neither literal is read. -/
theorem readTokens_surrogatePair :
    [StringPart.counted 'u' "D83D".toList, .counted 'u' "DE00".toList].flatMap StringPart.units =
        utf16 [Char.ofNat 0x1F600] ∧
      readTokens "\"\\uD83D\\uDE00\"" = .error ⟨⟨1, 2⟩, .invalidUnicodeEscape⟩ ∧
      [StringPart.raw '\u2028'].flatMap StringPart.units = utf16 ['\u2028'] ∧
      readTokens "\"\u2028\"" = .error ⟨⟨1, 1⟩, .unterminatedString⟩ := by
  have hpair : ∀ part ∈ [StringPart.counted 'u' "D83D".toList, .counted 'u' "DE00".toList],
      part.IsWritten '"' := by
    simp only [List.forall_mem_cons, List.not_mem_nil, false_implies, implies_true, and_true]
    exact ⟨.counted .four (by decide), .counted .four (by decide)⟩
  have hseparator : ∀ part ∈ [StringPart.raw '\u2028'], part.IsWritten '"' := by
    simpa using StringPart.IsWritten.raw (by decide) (by decide) (by decide)
  have hfirst (part : StringPart) (parts : List StringPart) :
      part :: parts = [] ++ part :: parts := rfl
  exact ⟨by decide,
    readTokens_stringOf_refused (.inl rfl) hpair (hfirst _ _) (by simp) (by decide), by decide,
    readTokens_stringOf_refused (.inl rfl) hseparator (hfirst _ _) (by simp) (by decide)⟩

end RouteTable.Script
