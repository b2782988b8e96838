import RouteTable.Proofs.Script.Leaving
import RouteTable.Proofs.Script.Template

/-!
Scripts that are a single literal or name. A text in quotes is read back as itself, unless it holds
one of the two line ends that are written as themselves. The names that are written without quotes
are just the texts that are read as a name of themselves, and so a key is always read back.
-/

namespace RouteTable.Script

open Cursor

section Strings

/-- A line end that is written as itself leaves the literal open. -/
theorem readStringLiteral_breaks {v : List Char} (hv : v.any breaksLiteral = true)
    (opened p : Position) (rest : List Char) :
    readStringLiteral '"' opened ⟨p, v.flatMap literalChar ++ rest⟩ =
      .error ⟨opened, .unterminatedString⟩ := by
  induction v generalizing p with
  | nil => cases hv
  | cons c v ih =>
    rw [List.flatMap_cons, List.append_assoc]
    by_cases hc : breaksLiteral c = true
    · have hwritten : literalChar c = [c] ∧ isLineTerminator c = true := by
        simp only [breaksLiteral, Bool.or_eq_true, beq_iff_eq] at hc
        rcases hc with rfl | rfl <;> decide
      rw [hwritten.1]
      exact readStringLiteral_lineEnd hwritten.2
    · rw [List.any_cons, Bool.or_eq_true] at hv
      rw [readStringLiteral_literalChar (Bool.eq_false_iff.2 hc)]
      obtain ⟨q, hnext⟩ := advance_append p (literalChar c) (v.flatMap literalChar ++ rest)
      rw [hnext, ih (hv.resolve_left hc)]
      rfl

/-- Reading fails where the lexeme behind the spacing cannot be read. -/
theorem readOn_of_error {before : List Token} {opened : List OpenBracket} {cursor : Cursor}
    {ended : Bool} {q : Position} {c : Char} {s : List Char} {e : LexicalError}
    (hskip : skipSpacing false cursor = .ok (ended, ⟨q, c :: s⟩))
    (hread : readLexeme before ⟨q, c :: s⟩ = .error e) :
    Written.readOn before opened cursor = .error e := by
  obtain ⟨hle, hspacing⟩ := Written.spacing_of_skipSpacing hskip
  rw [Written.readOn, tokensFrom]
  simp [hspacing, hread, Except.map]

/-- A text in quotes starts with no line for the interpreter. -/
theorem skipInterpreterLine_doubleQuoted (v : String) :
    skipInterpreterLine (.start (doubleQuoted v)) =
      ⟨.start, '"' :: (v.toList.flatMap literalChar ++ ['"'])⟩ := by
  rw [skipInterpreterLine, Cursor.startsWith, Cursor.start, Written.toList_doubleQuoted]
  rfl

theorem readTokens_doubleQuoted {v : String} (hv : v.toList.any breaksLiteral = false) :
    readTokens (doubleQuoted v) = .ok [⟨.string, v, .start, false⟩] := by
  have hgap : Written.GapRead [] ((doubleQuoted v).toList ++ []) :=
    Written.gapRead_spaces rfl (Written.settled_literal v [])
  have hsource : (doubleQuoted v).toList = Written.text [Written.literal [] v] ++ [] := by
    simp [Written.literal]
  have hline : ['#', '!'].isPrefixOf (doubleQuoted v).toList = false := by
    rw [Written.toList_doubleQuoted]
    rfl
  exact Written.readTokens_text hsource hline (.cons (Written.legible_literal hgap hv []) .nil) rfl
    (Written.gapRead_spaces rfl rfl)

theorem readTokens_doubleQuoted_breaks {v : String} (hv : v.toList.any breaksLiteral = true) :
    readTokens (doubleQuoted v) = .error ⟨.start, .unterminatedString⟩ := by
  have hstring := readStringLiteral_breaks hv .start
    (Position.start.step '"' (v.toList.flatMap literalChar ++ ['"'])) ['"']
  have hread : readLexeme [] ⟨.start, '"' :: (v.toList.flatMap literalChar ++ ['"'])⟩ =
      .error ⟨.start, .unterminatedString⟩ := by
    refine Reader.eq_error_of_map ((readLexeme_string (.inl rfl) [] .start _).trans ?_)
    rw [Cursor.next, hstring]
    rfl
  rw [Written.readTokens_eq_readOn, skipInterpreterLine_doubleQuoted]
  exact readOn_of_error (skipSpacing_of_settled rfl false .start) hread

end Strings

section Names

theorem remaining_unicodeEscape {cursor after : Cursor} {c : Char}
    (h : unicodeEscape cursor = .ok (c, after)) : after.remaining + 2 ≤ cursor.remaining := by
  unfold unicodeEscape at h
  split at h
  · rename_i hmark
    have hle := remaining_unicodeDigits_le (cursor.advance 2)
    have htwo : 2 ≤ cursor.remaining := by
      rcases cursor with ⟨p, _ | ⟨x, _ | ⟨y, s⟩⟩⟩
      · cases hmark
      · cases hmark
      · simp [remaining]
    rw [remaining_advance] at hle
    dsimp only at h
    split at h
    · cases h
      omega
    · cases h
  · cases h

/-- An escape in a name is longer than the character it gives, so that a name is no longer than its
text, and as long only if it has no escapes. -/
theorem length_of_readName {cursor after : Cursor} {name : List Char}
    (h : readName cursor = .ok (name, after)) :
    name.length + after.remaining ≤ cursor.remaining ∧
      (cursor.remaining ≤ name.length + after.remaining → name.all isNamePart = true) := by
  fun_induction readName cursor generalizing name after with
  | case1 =>
    cases h
    exact ⟨by simp, fun _ => rfl⟩
  | case2 cursor c s hs hc decoded behind hescape name last hread ih =>
    cases h
    have hshorter := remaining_unicodeEscape hescape
    have hlength := (ih hread).1
    rw [List.length_cons]
    constructor
    · omega
    · intro hle
      omega
  | case3 => cases h
  | case4 => cases h
  | case5 cursor c s hs hc hpart name last hread ih =>
    cases h
    obtain ⟨hlength, hparts⟩ := ih hread
    have hnext := remaining_next_lt hs
    rw [remaining_next] at hlength hparts hnext
    rw [List.length_cons, List.all_cons, Bool.and_eq_true]
    refine ⟨by omega, fun hle => ⟨hpart, hparts (by omega)⟩⟩
  | case6 => cases h
  | case7 cursor =>
    cases h
    exact ⟨by simp, fun _ => rfl⟩

/-- A name comes from the reader of names, at a character that starts one. -/
theorem readName_of_readLexeme {before : List Token} {cursor after : Cursor} {value : String}
    {hlt : after.remaining < cursor.remaining}
    (h : readLexeme before cursor = .ok ⟨((.name, value), after), hlt⟩) :
    cursor.rest.head?.any isNameStart = true ∧
      readName cursor = .ok (value.toList, after) := by
  rcases readLexeme_cases h with ⟨_, _, -, hresult, -⟩ | ⟨_, _, -, hresult, -⟩ |
    ⟨p, c, s, rfl, -, -, h⟩
  · cases hresult
  · cases hresult
  · cases readsPlain_of_readPlain h with
    | name hstart hread =>
      rw [String.toList_ofList]
      exact ⟨hstart, hread⟩

theorem startsPlainName_of_isNameStart {c : Char} (h : isNameStart c = true)
    (hpart : isNamePart c = true) : startsPlainName c = true := by
  have hescape : c ≠ '\\' := by
    rintro rfl
    exact absurd hpart (by decide)
  simpa [isNameStart, startsPlainName, hescape] using h

theorem continuesPlainName_of_isNamePart {c : Char} (h : isNamePart c = true) :
    continuesPlainName c = true := by
  simp only [isNamePart, Bool.or_eq_true] at h
  rcases h with (((h | h) | h) | h) | h <;> simp [continuesPlainName, h]

theorem readTokens_of_isPlainName {n : String} (h : isPlainName n = true) :
    readTokens n = .ok [⟨.name, n, .start, false⟩] := by
  obtain ⟨c, s, hn, hstart, hparts⟩ := Written.exists_of_isPlainName h
  have hline : ['#', '!'].isPrefixOf n.toList = false := by
    have hc : c ≠ '#' := by
      rintro rfl
      exact absurd hstart (by decide)
    simp [hn, List.isPrefixOf, Ne.symm hc]
  have hlegible : Written.Readable [] [⟨[], n.toList, .name, n⟩] :=
    (Written.readable_nil []).name h rfl rfl
  exact Written.readTokens_text (by simp) hline (hlegible [] _) rfl (Written.gapRead_spaces rfl rfl)

/-- What is read as one name with itself as the value has no escapes, and nothing around it. -/
theorem isPlainName_of_readTokens {n : String} {position : Position} {freshLine : Bool}
    (h : readTokens n = .ok [⟨.name, n, position, freshLine⟩]) : isPlainName n = true := by
  rw [readTokens] at h
  split at h
  · rename_i last hle hread
    cases h
    rcases tokensFrom_cases ⟨hle, hread⟩ with ⟨_, _, _, hnone, _⟩ |
      ⟨token, after, stillOpened, further, htokens, htoken, -, -⟩
    · cases hnone
    · cases htokens
      obtain ⟨start, ⟨hspacing, -⟩, -, hlt, hlexeme⟩ := htoken
      obtain ⟨gap, -, hgap, -⟩ := leads_of_spacing hspacing
      obtain ⟨front, hrest⟩ : ∃ front, n.toList = front ++ start.rest :=
        ⟨_, ((leads_skipInterpreterLine (.start n)).trans hgap).rest⟩
      obtain ⟨hstart, hname⟩ := readName_of_readLexeme hlexeme
      obtain ⟨hlength, hparts⟩ := length_of_readName hname
      -- The name is as long as all of the text, so that nothing else is in it.
      have hall := congrArg List.length hrest
      rw [List.length_append] at hall
      simp only [remaining] at hlength hparts
      have hfront := List.eq_nil_of_length_eq_zero (show front.length = 0 by omega)
      rw [hfront, List.nil_append] at hrest
      rw [← hrest] at hparts
      have hplain := hparts (Nat.le_add_right _ _)
      rw [← hrest] at hstart
      unfold isPlainName
      split
      · rename_i hnil
        rw [hnil] at hstart
        cases hstart
      · rename_i c s hcons
        rw [hcons] at hstart hplain
        rw [List.all_cons, Bool.and_eq_true, List.all_eq_true] at hplain
        rw [Bool.and_eq_true, List.all_eq_true]
        refine ⟨startsPlainName_of_isNameStart hstart hplain.1, fun d hd => ?_⟩
        exact continuesPlainName_of_isNamePart (hplain.2 d hd)
  · cases h

end Names

/-- What is written as a literal or a key is read back. A text in quotes is the one string token of
its value unless it holds a line separator or a paragraph separator, which leave the literal open.
A text is written without quotes exactly if it is read as the one name of itself, and as a key it
is always read back, as a name or as a string. -/
theorem readTokens_written (v : String) :
    (readTokens (doubleQuoted v)).mapError (fun e => (e.position, e.rule.message)) =
        (if '\u2028' ∈ v.toList ∨ '\u2029' ∈ v.toList then
          .error (⟨1, 1⟩, "unterminated string literal")
        else .ok [⟨.string, v, ⟨1, 1⟩, false⟩]) ∧
      (isPlainName v = true ↔
        ∃ position freshLine, readTokens v = .ok [⟨.name, v, position, freshLine⟩]) ∧
      ('\u2028' ∉ v.toList → '\u2029' ∉ v.toList →
        ∃ kind, (kind = .name ∨ kind = .string) ∧
          readTokens (nameOrQuoted v) = .ok [⟨kind, v, ⟨1, 1⟩, false⟩]) := by
  have hbreaks : v.toList.any breaksLiteral = true ↔
      '\u2028' ∈ v.toList ∨ '\u2029' ∈ v.toList := by
    simp [breaksLiteral, and_or_left, exists_or]
  refine ⟨?_, ⟨fun h => ⟨_, _, readTokens_of_isPlainName h⟩, ?_⟩, ?_⟩
  · split
    · rename_i hline
      rw [readTokens_doubleQuoted_breaks (hbreaks.2 hline)]
      rfl
    · rename_i hline
      rw [readTokens_doubleQuoted (Bool.eq_false_iff.2 (mt hbreaks.1 hline))]
      rfl
  · rintro ⟨position, freshLine, hread⟩
    exact isPlainName_of_readTokens hread
  · intro hseparator hparagraph
    have hline : v.toList.any breaksLiteral = false :=
      Bool.eq_false_iff.2 (mt hbreaks.1 (not_or.2 ⟨hseparator, hparagraph⟩))
    unfold nameOrQuoted
    split
    · rename_i hplain
      exact ⟨.name, Or.inl rfl, readTokens_of_isPlainName hplain⟩
    · exact ⟨.string, Or.inr rfl, readTokens_doubleQuoted hline⟩

/-- A key with a dash in it stands in quotes. -/
theorem readTokens_written_dashedKey :
    isPlainName "not-a-name" = false ∧
      ∃ kind, (kind = .name ∨ kind = .string) ∧
        readTokens (nameOrQuoted "not-a-name") = .ok [⟨kind, "not-a-name", ⟨1, 1⟩, false⟩] :=
  ⟨by decide, (readTokens_written "not-a-name").2.2 (by decide) (by decide)⟩

end RouteTable.Script
