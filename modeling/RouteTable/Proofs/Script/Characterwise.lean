import RouteTable.Script.Tokens

/-!
Spacing, names and strings are read character by character. Each lemma says what one character, one
comment or one escape adds to what is read behind it, or how the reading ends there. The first
character of a lexeme tells how the lexeme is read.
-/

namespace RouteTable.Script

variable {p : Position} {c : Char} {s : List Char} {after : Cursor} {e : LexicalError}

section Spacing

variable {ended ended' : Bool}

theorem skipSpacing_nil (ended : Bool) (p : Position) :
    skipSpacing ended ⟨p, []⟩ = .ok (ended, ⟨p, []⟩) := by
  rw [skipSpacing]

theorem skipSpacing_space (hc : isSpacing c = true) :
    skipSpacing ended ⟨p, c :: s⟩ =
      skipSpacing (ended || isLineTerminator c) (Cursor.next ⟨p, c :: s⟩) := by
  rw [skipSpacing]
  dsimp only
  rw [if_pos hc]

theorem skipSpacing_lineComment (hline : Cursor.startsWith ⟨p, c :: s⟩ ['/', '/'] = true) :
    skipSpacing ended ⟨p, c :: s⟩ =
      skipSpacing ended (Cursor.skipWhile (!isLineTerminator ·) ⟨p, c :: s⟩) := by
  obtain ⟨behind, hbehind⟩ := List.isPrefixOf_iff_prefix.1 hline
  cases hbehind
  rw [skipSpacing]
  dsimp only
  rw [if_neg (by decide), dif_pos hline]

theorem skipSpacing_blockOpener (hblock : Cursor.startsWith ⟨p, c :: s⟩ ['/', '*'] = true) :
    skipSpacing ended ⟨p, c :: s⟩ =
      (blockComment p ended (Cursor.advance 2 ⟨p, c :: s⟩).position s.tail).bind fun read =>
        skipSpacing read.1 read.2 := by
  obtain ⟨behind, hbehind⟩ := List.isPrefixOf_iff_prefix.1 hblock
  cases hbehind
  rw [skipSpacing]
  dsimp only
  rw [if_neg (by decide), dif_neg (by simp [Cursor.startsWith, List.isPrefixOf]), if_pos hblock]
  split
  · rename_i hok
    exact (congrArg (Except.bind · fun read => skipSpacing read.1 read.2) hok).symm
  · rename_i herror
    exact (congrArg (Except.bind · fun read => skipSpacing read.1 read.2) herror).symm

theorem skipSpacing_blockComment (hblock : Cursor.startsWith ⟨p, c :: s⟩ ['/', '*'] = true)
    (hcomment : blockComment p ended (Cursor.advance 2 ⟨p, c :: s⟩).position s.tail =
      .ok (ended', after)) :
    skipSpacing ended ⟨p, c :: s⟩ = skipSpacing ended' after := by
  rw [skipSpacing_blockOpener hblock, hcomment]
  rfl

/-- Nothing is passed in front of a character that is no spacing and starts no comment. -/
theorem skipSpacing_end (hc : isSpacing c = false)
    (hline : Cursor.startsWith ⟨p, c :: s⟩ ['/', '/'] = false)
    (hblock : Cursor.startsWith ⟨p, c :: s⟩ ['/', '*'] = false) :
    skipSpacing ended ⟨p, c :: s⟩ = .ok (ended, ⟨p, c :: s⟩) := by
  rw [skipSpacing]
  dsimp only
  rw [if_neg (Bool.eq_false_iff.1 hc), dif_neg (Bool.eq_false_iff.1 hline),
    if_neg (Bool.eq_false_iff.1 hblock)]

end Spacing

section Names

theorem ne_backslash_of_isNamePart (h : isNamePart c = true) : c ≠ '\\' := by
  rintro rfl
  exact absurd h (by decide)

theorem readName_nil (p : Position) : readName ⟨p, []⟩ = .ok ([], ⟨p, []⟩) := by
  rw [readName]

/-- A name ends in front of a character that cannot stand in it. -/
theorem readName_end (hescape : c ≠ '\\') (hpart : isNamePart c = false) :
    readName ⟨p, c :: s⟩ = .ok ([], ⟨p, c :: s⟩) := by
  rw [readName]
  dsimp only
  rw [if_neg (by simpa using hescape), if_neg (Bool.eq_false_iff.1 hpart)]

theorem readName_part (hpart : isNamePart c = true) :
    readName ⟨p, c :: s⟩ =
      (readName (Cursor.next ⟨p, c :: s⟩)).map fun read => (c :: read.1, read.2) := by
  rw [readName]
  dsimp only
  rw [if_neg (by simpa using ne_backslash_of_isNamePart hpart), if_pos hpart]
  cases readName (Cursor.next ⟨p, c :: s⟩) <;> rfl

theorem readName_escape (h : unicodeEscape ⟨p, '\\' :: s⟩ = .ok (c, after)) :
    readName ⟨p, '\\' :: s⟩ = (readName after).map fun read => (c :: read.1, read.2) := by
  rw [readName]
  dsimp only
  rw [if_pos (by decide)]
  split
  · rename_i hok
    cases h.symm.trans hok
    cases readName after <;> rfl
  · rename_i herror
    cases h.symm.trans herror

theorem readName_escape_error (h : unicodeEscape ⟨p, '\\' :: s⟩ = .error e) :
    readName ⟨p, '\\' :: s⟩ = .error e := by
  rw [readName]
  dsimp only
  rw [if_pos (by decide)]
  split
  · rename_i hok
    cases h.symm.trans hok
  · rename_i herror
    cases h.symm.trans herror
    rfl

end Names

section Strings

variable {quote : Char} {opened : Position}

/-- A string is not closed at the end of the text. -/
theorem readStringLiteral_nil (quote : Char) (opened p : Position) :
    readStringLiteral quote opened ⟨p, []⟩ = .error ⟨opened, .unterminatedString⟩ := by
  rw [readStringLiteral]

/-- A string is not closed behind the end of its line. -/
theorem readStringLiteral_lineEnd (hline : isLineTerminator c = true) :
    readStringLiteral quote opened ⟨p, c :: s⟩ = .error ⟨opened, .unterminatedString⟩ := by
  rw [readStringLiteral]
  dsimp only
  rw [if_pos hline]

theorem readStringLiteral_quote (hquote : isLineTerminator quote = false) :
    readStringLiteral quote opened ⟨p, quote :: s⟩ = .ok ([], Cursor.next ⟨p, quote :: s⟩) := by
  rw [readStringLiteral]
  dsimp only
  rw [if_neg (Bool.eq_false_iff.1 hquote), if_pos (beq_self_eq_true quote)]

theorem readStringLiteral_plain (hline : isLineTerminator c = false) (hquote : c ≠ quote)
    (hescape : c ≠ '\\') :
    readStringLiteral quote opened ⟨p, c :: s⟩ =
      (readStringLiteral quote opened (Cursor.next ⟨p, c :: s⟩)).map
        fun read => (c :: read.1, read.2) := by
  rw [readStringLiteral]
  dsimp only
  rw [if_neg (by simp [hline]), if_neg (by simpa using hquote), if_neg (by simpa using hescape)]
  cases readStringLiteral quote opened (Cursor.next ⟨p, c :: s⟩) <;> rfl

theorem readStringLiteral_escape {decoded : List Char} (hquote : quote ≠ '\\')
    (h : stringEscape opened ⟨p, '\\' :: s⟩ = .ok (decoded, after)) :
    readStringLiteral quote opened ⟨p, '\\' :: s⟩ =
      (readStringLiteral quote opened after).map fun read => (decoded ++ read.1, read.2) := by
  rw [readStringLiteral]
  dsimp only
  rw [if_neg (by decide), if_neg (by simpa using Ne.symm hquote), if_pos (by decide)]
  split
  · rename_i hok
    cases h.symm.trans hok
    cases readStringLiteral quote opened after <;> rfl
  · rename_i herror
    cases h.symm.trans herror

theorem readStringLiteral_escape_error (hquote : quote ≠ '\\')
    (h : stringEscape opened ⟨p, '\\' :: s⟩ = .error e) :
    readStringLiteral quote opened ⟨p, '\\' :: s⟩ = .error e := by
  rw [readStringLiteral]
  dsimp only
  rw [if_neg (by decide), if_neg (by simpa using Ne.symm hquote), if_pos (by decide)]
  split
  · rename_i hok
    cases h.symm.trans hok
  · rename_i herror
    cases h.symm.trans herror
    rfl

end Strings

section Lexemes

/-- A name, which succeeds or fails as its lexeme. -/
theorem readPlain_name (hstart : isNameStart c = true) (before : List Token) :
    (readPlain before ⟨p, c :: s⟩).map Subtype.val =
      (readName ⟨p, c :: s⟩).map fun read => ((.name, String.ofList read.1), read.2) := by
  rw [readPlain]
  dsimp only
  rw [dif_pos hstart]
  split
  · rename_i herror
    simp only [herror]
    rfl
  · rename_i hok
    simp only [hok]
    rfl

/-- A `#` in front of a name makes it a private one. -/
theorem readPlain_privateName (hstart : s.head?.any isNameStart = true) (before : List Token) :
    (readPlain before ⟨p, '#' :: s⟩).map Subtype.val =
      (readName (Cursor.next ⟨p, '#' :: s⟩)).map
        fun read => ((.privateName, String.ofList read.1), read.2) := by
  have hmark : isNameStart '#' = false := by decide +kernel
  rw [readPlain]
  dsimp only
  rw [dif_neg (by simp [hmark]), if_pos (by simp [hstart])]
  split
  · rename_i herror
    simp only [herror]
    rfl
  · rename_i hok
    simp only [hok]
    rfl

/-- A number is the text that its first characters start. -/
theorem readPlain_number (hname : isNameStart c = false) (hnumber : startsNumber (c :: s) = true)
    (before : List Token) :
    (readPlain before ⟨p, c :: s⟩).map Subtype.val =
      .ok ((.number, String.ofList (numberText (c :: s))),
        Cursor.advance (numberText (c :: s)).length ⟨p, c :: s⟩) := by
  have hmark : c ≠ '#' := by
    rintro rfl
    cases hnumber
  rw [readPlain]
  dsimp only
  rw [dif_neg (by simp [hname]), if_neg (by simp [hmark]), if_pos hnumber]
  rfl

/-- A quote starts a string, which succeeds or fails as its lexeme. -/
theorem readPlain_string (hquote : c = '"' ∨ c = '\'') (before : List Token) :
    (readPlain before ⟨p, c :: s⟩).map Subtype.val =
      (readStringLiteral c p (Cursor.next ⟨p, c :: s⟩)).map
        fun read => ((.string, String.ofList read.1), read.2) := by
  have hplain : c ≠ '#' ∧ isNameStart c = false ∧ startsNumber (c :: s) = false ∧
      (c == '"' || c == '\'') = true := by
    rcases hquote with rfl | rfl <;> exact ⟨by decide, by decide +kernel, rfl, rfl⟩
  obtain ⟨hhash, hname, hnumber, hmark⟩ := hplain
  rw [readPlain]
  dsimp only
  rw [dif_neg (by simp [hname]), if_neg (by simp [hhash]), if_neg (by simp [hnumber]), if_pos hmark]
  split
  · rename_i herror
    simp only [herror]
    rfl
  · rename_i hok
    simp only [hok]
    rfl

/-- A slash where an operand may stand starts a regular expression. -/
theorem readPlain_regex {before : List Token} (hawaits : awaitsOperand before = true) :
    (readPlain before ⟨p, '/' :: s⟩).map Subtype.val =
      (readRegularExpression ⟨p, '/' :: s⟩).map fun after => ((.regex, ""), after) := by
  have hname : isNameStart '/' = false := by decide +kernel
  have hnumber : startsNumber ('/' :: s) = false := rfl
  rw [readPlain]
  dsimp only
  rw [dif_neg (by simp [hname]), if_neg (by simp), if_neg (by simp [hnumber]), if_neg (by decide),
    if_pos (by simp [hawaits])]
  split
  · rename_i herror
    simp only [herror]
    rfl
  · rename_i hok
    simp only [hok]
    rfl

/-- Whether a character with a text behind it starts no name and no literal. -/
structure StartsMark (before : List Token) (c : Char) (s : List Char) : Prop where
  name : isNameStart c = false
  privateName : (c == '#' && s.head?.any isNameStart) = false
  number : startsNumber (c :: s) = false
  quote : (c == '"' || c == '\'') = false
  regex : (c == '/' && awaitsOperand before) = false

/-- What starts no name and no literal is read as a punctuator. -/
theorem readPlain_punctuator {before : List Token} {mark : List Char}
    (hstarts : StartsMark before c s) (hmark : punctuator? (c :: s) = some mark) :
    (readPlain before ⟨p, c :: s⟩).map Subtype.val =
      .ok ((.punctuator, String.ofList mark), Cursor.advance mark.length ⟨p, c :: s⟩) := by
  rw [readPlain]
  dsimp only
  rw [dif_neg (Bool.eq_false_iff.1 hstarts.name), if_neg (Bool.eq_false_iff.1 hstarts.privateName),
    if_neg (Bool.eq_false_iff.1 hstarts.number), if_neg (Bool.eq_false_iff.1 hstarts.quote),
    if_neg (Bool.eq_false_iff.1 hstarts.regex)]
  split
  · rename_i hsome
    cases hmark.symm.trans hsome
    rfl
  · rename_i hnone
    cases hmark.symm.trans hnone

/-- How a token that holds no other tokens is read. Its first characters tell what it is. -/
inductive ReadsPlain (before : List Token) : Cursor → TokenClass × String → Cursor → Prop where
  | name {p : Position} {c : Char} {s name : List Char} {after : Cursor}
      (hstart : isNameStart c = true) (hread : readName ⟨p, c :: s⟩ = .ok (name, after)) :
      ReadsPlain before ⟨p, c :: s⟩ (.name, String.ofList name) after
  | privateName {p : Position} {s name : List Char} {after : Cursor}
      (hstart : s.head?.any isNameStart = true)
      (hread : readName (Cursor.next ⟨p, '#' :: s⟩) = .ok (name, after)) :
      ReadsPlain before ⟨p, '#' :: s⟩ (.privateName, String.ofList name) after
  | number {p : Position} {c : Char} {s : List Char} (hname : isNameStart c = false)
      (hnumber : startsNumber (c :: s) = true) :
      ReadsPlain before ⟨p, c :: s⟩ (.number, String.ofList (numberText (c :: s)))
        (Cursor.advance (numberText (c :: s)).length ⟨p, c :: s⟩)
  | string {p : Position} {c : Char} {s value : List Char} {after : Cursor}
      (hquote : c = '"' ∨ c = '\'')
      (hread : readStringLiteral c p (Cursor.next ⟨p, c :: s⟩) = .ok (value, after)) :
      ReadsPlain before ⟨p, c :: s⟩ (.string, String.ofList value) after
  | regex {p : Position} {s : List Char} {after : Cursor} (hawaits : awaitsOperand before = true)
      (hread : readRegularExpression ⟨p, '/' :: s⟩ = .ok after) :
      ReadsPlain before ⟨p, '/' :: s⟩ (.regex, "") after
  | punctuator {p : Position} {c : Char} {s mark : List Char} (hstarts : StartsMark before c s)
      (hmark : punctuator? (c :: s) = some mark) :
      ReadsPlain before ⟨p, c :: s⟩ (.punctuator, String.ofList mark)
        (Cursor.advance mark.length ⟨p, c :: s⟩)

section Reads

variable {before : List Token} {cursor : Cursor} {result : TokenClass × String}

theorem ReadsPlain.map_readPlain (h : ReadsPlain before cursor result after) :
    (readPlain before cursor).map Subtype.val = .ok (result, after) := by
  cases h with
  | name hstart hread =>
    rw [readPlain_name hstart, hread]
    rfl
  | privateName hstart hread =>
    rw [readPlain_privateName hstart, hread]
    rfl
  | number hname hnumber => exact readPlain_number hname hnumber before
  | string hquote hread =>
    rw [readPlain_string hquote, hread]
    rfl
  | regex hawaits hread =>
    rw [readPlain_regex hawaits, hread]
    rfl
  | punctuator hstarts hmark => exact readPlain_punctuator hstarts hmark

theorem readsPlain_of_readPlain {hlt : after.remaining < cursor.remaining}
    (h : readPlain before cursor = .ok ⟨(result, after), hlt⟩) :
    ReadsPlain before cursor result after := by
  rcases cursor with ⟨p, _ | ⟨c, s⟩⟩
  · exact absurd hlt (Nat.not_lt_zero _)
  rw [readPlain] at h
  dsimp only at h
  split at h
  · rename_i hname
    split at h
    · cases h
    · rename_i hread
      cases h
      exact .name hname hread
  rename_i hname
  split at h
  · rename_i hprivate
    obtain ⟨rfl, hstart⟩ : c = '#' ∧ s.head?.any isNameStart = true := by simpa using hprivate
    split at h
    · cases h
    · rename_i hread
      cases h
      exact .privateName hstart hread
  rename_i hprivate
  split at h
  · rename_i hnumber
    cases h
    exact .number (Bool.eq_false_iff.2 hname) hnumber
  rename_i hnumber
  split at h
  · rename_i hquote
    split at h
    · cases h
    · rename_i hread
      cases h
      exact .string (by simpa using hquote) hread
  rename_i hquote
  split at h
  · rename_i hregex
    obtain ⟨rfl, hawaits⟩ : c = '/' ∧ awaitsOperand before = true := by simpa using hregex
    split at h
    · cases h
    · rename_i hread
      cases h
      exact .regex hawaits hread
  rename_i hregex
  split at h
  · rename_i hmark
    cases h
    exact .punctuator ⟨Bool.eq_false_iff.2 hname, Bool.eq_false_iff.2 hprivate,
      Bool.eq_false_iff.2 hnumber, Bool.eq_false_iff.2 hquote, Bool.eq_false_iff.2 hregex⟩ hmark
  · cases h

end Reads

/-- What is no template and no element is read as a lexeme without scripts in it. -/
theorem readLexeme_plain (hquote : c ≠ '\x60') {before : List Token}
    (hangle : (c == '<' && awaitsOperand before && opensElement (c :: s)) = false) (p : Position) :
    readLexeme before ⟨p, c :: s⟩ = readPlain before ⟨p, c :: s⟩ := by
  rw [readLexeme]
  dsimp only
  rw [if_neg (by simpa using hquote), if_neg (Bool.eq_false_iff.1 hangle)]

theorem readLexeme_of_ne (hquote : c ≠ '\x60') {before : List Token}
    (hangle : c ≠ '<' ∨ awaitsOperand before = false) (p : Position) :
    readLexeme before ⟨p, c :: s⟩ = readPlain before ⟨p, c :: s⟩ := by
  refine readLexeme_plain hquote ?_ p
  rcases hangle with h | h <;> simp [h]

theorem readLexeme_name (hstart : isNameStart c = true) (before : List Token) :
    (readLexeme before ⟨p, c :: s⟩).map Subtype.val =
      (readName ⟨p, c :: s⟩).map fun read => ((.name, String.ofList read.1), read.2) := by
  have hne : ∀ d, isNameStart d = false → c ≠ d := by
    rintro d hd rfl
    rw [hstart] at hd
    cases hd
  rw [readLexeme_of_ne (hne _ (by decide +kernel)) (.inl (hne _ (by decide +kernel)))]
  exact readPlain_name hstart before

theorem readLexeme_privateName (hstart : s.head?.any isNameStart = true) (before : List Token) :
    (readLexeme before ⟨p, '#' :: s⟩).map Subtype.val =
      (readName (Cursor.next ⟨p, '#' :: s⟩)).map
        fun read => ((.privateName, String.ofList read.1), read.2) := by
  rw [readLexeme_of_ne (by decide) (.inl (by decide))]
  exact readPlain_privateName hstart before

theorem readLexeme_string {quote : Char} (hquote : quote = '"' ∨ quote = '\'') (before : List Token)
    (p : Position) (s : List Char) :
    (readLexeme before ⟨p, quote :: s⟩).map Subtype.val =
      (readStringLiteral quote p (Cursor.next ⟨p, quote :: s⟩)).map
        fun read => ((.string, String.ofList read.1), read.2) := by
  have hplain : quote ≠ '\x60' ∧ quote ≠ '<' := by
    rcases hquote with rfl | rfl <;> decide
  rw [readLexeme_of_ne hplain.1 (.inl hplain.2)]
  exact readPlain_string hquote before

end Lexemes

end RouteTable.Script
