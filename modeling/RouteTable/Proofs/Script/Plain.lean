import RouteTable.Proofs.Script.Legible
import RouteTable.Script.Literal

/-!
Plain texts: names, numbers, punctuators and quoted texts with white space between them. String
literals and names are read back as the texts they were written for. A literal that holds one of the
two line ends that are written as themselves is not closed on its line. Whether a text is written
plainly can be computed, and then it is read as the tokens it was written with.
-/

namespace RouteTable.Script

theorem stringEscape_simple {c : Char} (hunicode : c ≠ 'u') (hhexadecimal : c ≠ 'x')
    (hline : isLineTerminator c = false) (opened p : Position) (s : List Char) :
    stringEscape opened ⟨p, '\\' :: c :: s⟩ =
      .ok ([simpleEscape c], Cursor.advance 2 ⟨p, '\\' :: c :: s⟩) := by
  unfold stringEscape
  simp [hunicode, hhexadecimal, hline]

/-- Control characters are written with two hexadecimal digits. -/
theorem stringEscape_control {c : Char} (hc : c.toNat < 0x20) (opened p : Position)
    (s : List Char) :
    stringEscape opened ⟨p, '\\' :: 'u' :: '0' :: '0' ::
        Text.lowerHexadecimalDigit (c.toNat / 16) :: Text.lowerHexadecimalDigit (c.toNat % 16) ::
        s⟩ =
      .ok ([c], Cursor.advance 6 ⟨p, '\\' :: 'u' :: '0' :: '0' ::
        Text.lowerHexadecimalDigit (c.toNat / 16) :: Text.lowerHexadecimalDigit (c.toNat % 16) ::
        s⟩) := by
  have hdigits : ∀ n < 0x20, characterOfDigits? ['0', '0', Text.lowerHexadecimalDigit (n / 16),
      Text.lowerHexadecimalDigit (n % 16)] = some (Char.ofNat n) := by
    decide
  have hcharacter := hdigits c.toNat hc
  rw [Char.ofNat_toNat] at hcharacter
  unfold stringEscape
  simp [unicodeEscape, unicodeDigits, Cursor.startsWith, List.isPrefixOf, hcharacter]
  exact (Cursor.advance_add 2 4 _).symm

/-- The line ends that a literal is written with as themselves. -/
def breaksLiteral (c : Char) : Bool :=
  c == '\u2028' || c == '\u2029'

/-- A character of a literal is read back as itself. -/
theorem readStringLiteral_literalChar {c : Char} (hc : breaksLiteral c = false)
    (opened p : Position) (s : List Char) :
    readStringLiteral '"' opened ⟨p, literalChar c ++ s⟩ =
      (readStringLiteral '"' opened
        (Cursor.advance (literalChar c).length ⟨p, literalChar c ++ s⟩)).map
          fun read => (c :: read.1, read.2) := by
  have hsimple : ∀ d, d ≠ 'u' → d ≠ 'x' → isLineTerminator d = false →
      readStringLiteral '"' opened ⟨p, '\\' :: d :: s⟩ =
        (readStringLiteral '"' opened (Cursor.advance 2 ⟨p, '\\' :: d :: s⟩)).map
          fun read => (simpleEscape d :: read.1, read.2) := fun d hu hx hl =>
    readStringLiteral_escape (by decide) (stringEscape_simple hu hx hl opened p s)
  unfold literalChar
  split
  case h_8 hquote hbackslash hbackspace hfeed hnewline hreturn htab =>
    split
    · rename_i hcontrol
      exact readStringLiteral_escape (by decide) (stringEscape_control hcontrol opened p s)
    · have hline : isLineTerminator c = false := by
        simp only [breaksLiteral, Bool.or_eq_false_iff, beq_eq_false_iff_ne, ne_eq] at hc
        simpa [isLineTerminator, hc] using And.intro hnewline hreturn
      exact readStringLiteral_plain hline hquote hbackslash
  all_goals exact hsimple _ (by decide) (by decide) (by decide)

/-- The characters of a literal are read back up to the closing quote. -/
theorem readStringLiteral_literal {v : List Char} (hv : v.any breaksLiteral = false)
    (opened p : Position) (rest : List Char) :
    readStringLiteral '"' opened ⟨p, v.flatMap literalChar ++ '"' :: rest⟩ =
      .ok (v, Cursor.advance ((v.flatMap literalChar).length + 1)
        ⟨p, v.flatMap literalChar ++ '"' :: rest⟩) := by
  induction v generalizing p with
  | nil =>
    exact readStringLiteral_quote (by decide)
  | cons c v ih =>
    rw [List.any_cons, Bool.or_eq_false_iff] at hv
    rw [List.flatMap_cons, List.append_assoc, readStringLiteral_literalChar hv.1,
      List.length_append, Nat.add_assoc, Cursor.advance_add (literalChar c).length]
    generalize hnext : Cursor.advance (literalChar c).length
      ⟨p, literalChar c ++ (v.flatMap literalChar ++ '"' :: rest)⟩ = next
    have hrest : next.rest = v.flatMap literalChar ++ '"' :: rest := by
      simp [← hnext]
    rw [Cursor.eq_of_rest hrest, ih hv.2]
    rfl

namespace Written

/-- A text in quotes, as a token with its gap. -/
def literal (gap : List Char) (v : String) : Written :=
  ⟨gap, (doubleQuoted v).toList, .string, v⟩

theorem toList_doubleQuoted (v : String) :
    (doubleQuoted v).toList = '"' :: (v.toList.flatMap literalChar ++ ['"']) := by
  simp [doubleQuoted]

theorem settled_literal (v : String) (rest : List Char) :
    settled ((doubleQuoted v).toList ++ rest) = true := by
  rw [toList_doubleQuoted, List.cons_append]
  rfl

/-- A text in quotes is a token of its own wherever it stands. -/
theorem legible_literal {gap rest : List Char} {v : String}
    (hgap : GapRead gap ((doubleQuoted v).toList ++ rest))
    (hv : v.toList.any breaksLiteral = false) (before : List Token) :
    Legible before (literal gap v) rest := by
  unfold literal
  -- The lexeme is named, as unifying the text of a string literal would evaluate its encoding.
  generalize hlexeme : (doubleQuoted v).toList = lexeme at hgap ⊢
  rw [toList_doubleQuoted] at hlexeme
  have hne : lexeme ≠ [] := by
    simp [← hlexeme]
  have htext : lexeme ++ rest = '"' :: (v.toList.flatMap literalChar ++ '"' :: rest) := by
    simp [← hlexeme]
  have hlength : lexeme.length = (v.toList.flatMap literalChar).length + 1 + 1 := by
    simp [← hlexeme]
  refine ⟨hgap, hne, fun p => ?_⟩
  have hread := readStringLiteral_literal hv p
    (p.step '"' (v.toList.flatMap literalChar ++ '"' :: rest)) rest
  dsimp only
  rw [htext, hlength, readLexeme_string (.inl rfl) before, Cursor.next, hread]
  simp only [Except.map, String.ofList_toList]
  rfl

end Written

theorem literalChar_of_plain {c : Char} (hquote : c ≠ '"') (hbackslash : c ≠ '\\')
    (hprinting : 0x20 ≤ c.toNat) : literalChar c = [c] := by
  unfold literalChar
  split
  case h_1 => exact absurd rfl hquote
  case h_2 => exact absurd rfl hbackslash
  case h_8 => exact if_neg (Nat.not_lt.2 hprinting)
  all_goals exact absurd hprinting (by decide)

/-- A text in quotes is the text between quotes, if none of its characters has to be escaped. -/
theorem doubleQuoted_of_plain {text : String}
    (h : ∀ c ∈ text.toList, c ≠ '"' ∧ c ≠ '\\' ∧ 0x20 ≤ c.toNat) :
    doubleQuoted text = "\"" ++ text ++ "\"" := by
  have hplain : text.toList.flatMap literalChar = text.toList := by
    have hsame : ∀ c ∈ text.toList, literalChar c = [c] := fun c hc =>
      literalChar_of_plain (h c hc).1 (h c hc).2.1 (h c hc).2.2
    rw [List.flatMap_congr hsame, List.flatMap_singleton']
  apply String.toList_injective
  rw [Written.toList_doubleQuoted, hplain]
  simp


namespace Written

/-- Whether a written token is plain after the tokens `before`, with `rest` behind it. -/
def isPlain (before : List Token) (written : Written) (rest : List Char) : Bool :=
  written.gap.all isSpacing && settled (written.lexeme ++ rest) &&
    match written.kind with
    | .name =>
      written.value == String.ofList written.lexeme && written.lexeme.head?.any isNameStart &&
        written.lexeme.all isNamePart && !rest.head?.any isNamePart && rest.head? != some '\\'
    | .punctuator =>
      written.value == String.ofList written.lexeme &&
        punctuator? (written.lexeme ++ rest) == some written.lexeme &&
        !written.lexeme.head?.any (fun c => isNameStart c || c == '#' || c == '"' || c == '\'' ||
          c == '/' || c == '\x60') &&
        !startsNumber (written.lexeme ++ rest) &&
        (written.lexeme.head? != some '<' || !awaitsOperand before)
    | .number =>
      written.value == String.ofList written.lexeme &&
        !written.lexeme.head?.any (fun c => isNameStart c || c == '#' || c == '<' || c == '\x60') &&
        startsNumber (written.lexeme ++ rest) &&
        numberText (written.lexeme ++ rest) == written.lexeme
    | .string =>
      written.lexeme == (doubleQuoted written.value).toList &&
        !written.value.toList.any breaksLiteral
    | _ => false

theorem legible_of_isPlain {before : List Token} {written : Written} {rest : List Char}
    (h : written.isPlain before rest = true) : written.Legible before rest := by
  obtain ⟨gap, lexeme, kind, value⟩ := written
  simp only [isPlain, Bool.and_eq_true] at h
  obtain ⟨⟨hspaces, hsettled⟩, hkind⟩ := h
  have hgap := gapRead_spaces hspaces hsettled
  cases kind with
  | name =>
    simp only [Bool.and_eq_true, beq_iff_eq, Bool.not_eq_true', bne_iff_ne, ne_eq] at hkind
    obtain ⟨⟨⟨⟨rfl, hstart⟩, hname⟩, hrest⟩, hescape⟩ := hkind
    exact legible_name hgap hstart hname hrest hescape before
  | punctuator =>
    simp only [Bool.and_eq_true, beq_iff_eq, Bool.not_eq_true', bne_iff_ne, ne_eq,
      Bool.or_eq_true] at hkind
    obtain ⟨⟨⟨⟨rfl, hmark⟩, hplain⟩, hnumber⟩, hangle⟩ := hkind
    exact legible_punctuator hgap hmark hplain hnumber hangle
  | number =>
    simp only [Bool.and_eq_true, beq_iff_eq, Bool.not_eq_true'] at hkind
    obtain ⟨⟨⟨rfl, hplain⟩, hnumber⟩, htext⟩ := hkind
    exact legible_number hgap hplain hnumber htext before
  | string =>
    simp only [Bool.and_eq_true, beq_iff_eq, Bool.not_eq_true'] at hkind
    obtain ⟨rfl, hbreaks⟩ := hkind
    exact legible_literal hgap hbreaks before
  | privateName => cases hkind
  | template => cases hkind
  | regex => cases hkind
  | element => cases hkind

/-- Whether written tokens are plain, one after another, with `rest` behind them. -/
def arePlain (rest : List Char) (before : List Token) (cursor : Cursor) : List Written → Bool
  | [] => true
  | written :: others =>
    written.isPlain before (text others ++ rest) &&
      arePlain rest (written.token cursor :: before) (written.after cursor) others

theorem allLegible_of_arePlain {rest : List Char} {before : List Token} {cursor : Cursor}
    {writtens : List Written} (h : arePlain rest before cursor writtens = true) :
    AllLegible rest before cursor writtens := by
  induction writtens generalizing before cursor with
  | nil => exact .nil
  | cons written others ih =>
    simp only [arePlain, Bool.and_eq_true] at h
    exact .cons (legible_of_isPlain h.1) (ih h.2)

/-- Whether a source is written plainly with some tokens, and white space at its end. -/
def writesPlainly (source : String) (writtens : List Written) (rest : List Char) : Bool :=
  source.toList == text writtens ++ rest && !(['#', '!'].isPrefixOf source.toList) &&
    arePlain rest [] (.start source) writtens && nestAll [] writtens == some [] &&
    rest.all isSpacing

/-- A source that is written plainly is read as the tokens it is written with. -/
theorem readTokens_of_writesPlainly {source : String} {writtens : List Written} {rest : List Char}
    (h : writesPlainly source writtens rest = true) :
    readTokens source = .ok (tokens (.start source) writtens) := by
  simp only [writesPlainly, Bool.and_eq_true, beq_iff_eq, Bool.not_eq_true'] at h
  obtain ⟨⟨⟨⟨hsource, hline⟩, hplain⟩, hnest⟩, hspaces⟩ := h
  exact readTokens_text hsource hline (allLegible_of_arePlain hplain) hnest
    (gapRead_spaces hspaces (by decide))

def plain (kind : TokenClass) (gap value : String) : Written :=
  ⟨gap.toList, value.toList, kind, value⟩

end Written

end RouteTable.Script
