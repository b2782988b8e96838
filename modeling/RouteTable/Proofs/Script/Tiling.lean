import RouteTable.Proofs.Script.Leaving
import RouteTable.Proofs.Script.Plain
import RouteTable.Proofs.Script.Positions

/-!
The tokens of a source tile it. Each is spelled by a part of the source, all that stands in front of
them, between them and behind them is spacing and comments, and each carries the line and column
where its part starts.
-/

namespace RouteTable.Script

open Cursor

/-- Whether a token stands in a source from `start` to `stop`, behind the tokens up to `behind`. -/
structure IsTile (source : List Char) (behind start stop : Nat) (token : Token) : Prop where
  behind_le : behind ≤ start
  start_lt : start < stop
  stop_le : stop ≤ source.length
  gap : IsGap (source.drop start) (source.extract behind start)
  position : token.position = positionBehind (source.take start)
  freshLine : token.freshLine = (source.extract behind start).any isLineTerminator
  spells : Spells token.kind token.value (source.extract start stop)

/-- Whether tokens stand one behind another in a source, from an offset on up to its end. -/
inductive Tiles (source : List Char) : Nat → List Token → Prop where
  | nil {behind : Nat} (hle : behind ≤ source.length) (hgap : IsGap [] (source.drop behind)) :
      Tiles source behind []
  | cons {behind start stop : Nat} {token : Token} {tokens : List Token}
      (htile : IsTile source behind start stop token) (h : Tiles source stop tokens) :
      Tiles source behind (token :: tokens)

theorem extract_append (first second third : List Char) :
    (first ++ second ++ third).extract first.length (first ++ second).length = second := by
  simp

/-- The position of a cursor is the one behind the text that leads to it. -/
theorem position_of_leads {source : String} {passed : List Char} {cursor : Cursor}
    (h : (Cursor.start source).Leads passed cursor) (happart : EndsApart passed cursor.rest) :
    cursor.position = positionBehind passed := by
  have hrest : source.toList = passed ++ cursor.rest := h.rest
  rw [← h.advance, Cursor.start, hrest, position_advance _ happart, positionBehind]
  simp [Position.start]

theorem endsApart_of_head {text rest : List Char} (h : rest.head?.any isSpacing = false) :
    EndsApart text rest := by
  rintro ⟨-, hhead⟩
  rw [hhead] at h
  exact absurd h (by decide)

/-- The text that the reader of a token passes spells the token. -/
theorem spells_of_readLexeme {before : List Token} {cursor after : Cursor} {kind : TokenClass}
    {value : String} {hlt : after.remaining < cursor.remaining}
    (h : readLexeme before cursor = .ok ⟨((kind, value), after), hlt⟩) :
    ∃ lexeme, lexeme ≠ [] ∧ cursor.Leads lexeme after ∧ Spells kind value lexeme := by
  have hnonempty : ∀ lexeme, cursor.Leads lexeme after → lexeme ≠ [] := by
    rintro lexeme hleads rfl
    cases hleads.advance
    exact Nat.lt_irrefl _ hlt
  obtain ⟨lexeme, hleads⟩ := Reader.passesText (.lexeme before cursor) after ⟨_, hlt, h⟩
  rcases readLexeme_cases h with ⟨p, s, rfl, hresult, -⟩ | ⟨p, s, rfl, hresult, -⟩ |
    ⟨p, c, s, rfl, -, -, hplain⟩
  · cases hresult
    exact ⟨lexeme, hnonempty lexeme hleads, hleads, trivial⟩
  · cases hresult
    exact ⟨lexeme, hnonempty lexeme hleads, hleads, trivial⟩
  · obtain ⟨text, htext, hspells⟩ := (readsPlain_of_readPlain hplain).spells
    exact ⟨text, hnonempty text htext, htext, hspells⟩

/-- Between two places of a source, a gap and the text of a token make a tile. -/
theorem isTile_of_leads {source : String} {passed gap lexeme : List Char}
    {cursor start after : Cursor} {token : Token}
    (hpassed : (Cursor.start source).Leads passed cursor) (hgap : cursor.Leads gap start)
    (hisGap : IsGap start.rest gap) (hbehind : start.rest.head?.any isSpacing = false)
    (hlexeme : start.Leads lexeme after) (hnonempty : lexeme ≠ [])
    (hposition : token.position = start.position)
    (hfreshLine : token.freshLine = gap.any isLineTerminator)
    (hspells : Spells token.kind token.value lexeme) :
    IsTile source.toList passed.length (passed ++ gap).length (passed ++ gap ++ lexeme).length
      token := by
  have hstart := hpassed.trans hgap
  have hsource : source.toList = passed ++ gap ++ start.rest := hstart.rest
  have hall : source.toList = passed ++ gap ++ lexeme ++ after.rest := (hstart.trans hlexeme).rest
  have hbetween : source.toList.extract passed.length (passed ++ gap).length = gap := by
    rw [hsource, extract_append]
  have hlength : 0 < lexeme.length := List.length_pos_of_ne_nil hnonempty
  constructor
  case behind_le => simp
  case start_lt =>
    simp only [List.length_append]
    omega
  case stop_le =>
    rw [hall]
    exact (List.prefix_append _ _).length_le
  case gap =>
    rw [hbetween, hsource, List.drop_left]
    exact hisGap
  case position =>
    rw [hposition, hsource, List.take_left]
    exact position_of_leads hstart (endsApart_of_head hbehind)
  case freshLine =>
    rw [hbetween]
    exact hfreshLine
  case spells =>
    rw [hall, extract_append]
    exact hspells

/-- The tokens of a script tile what is left of the source. -/
theorem tiles_of_tokensFrom {source : String} {before tokens : List Token}
    {opened : List OpenBracket} {cursor last : Cursor} {passed : List Char}
    (hpassed : (Cursor.start source).Leads passed cursor)
    (h : Gives (tokensFrom false before opened cursor) tokens last) :
    Tiles source.toList passed.length tokens := by
  rcases tokensFrom_cases h with ⟨freshLine, start, hspacing, rfl, -, hend⟩ |
    ⟨token, after, stillOpened, further, rfl, ⟨start, hlexeme, hposition, hafter, hread⟩, -,
      hfurther⟩
  · obtain ⟨gap, hisGap, hgap, -, -⟩ := leads_of_spacing hspacing
    rcases hend with ⟨-, hend, rfl⟩ | ⟨hembedded, -⟩
    · have hsource : source.toList = passed ++ gap := by
        have hrest := (hpassed.trans hgap).rest
        rw [hend, List.append_nil] at hrest
        exact hrest
      rw [hend] at hisGap
      refine .nil ?_ ?_
      · simp [hsource]
      · rwa [hsource, List.drop_left]
    · cases hembedded
  · obtain ⟨gap, hisGap, hgap, hfreshLine, hbehind⟩ := leads_of_spacing hlexeme.1
    have hlt : after.remaining < cursor.remaining := Nat.lt_of_lt_of_le hafter hlexeme.1.1
    obtain ⟨lexeme, hnonempty, hlexeme, hspells⟩ := spells_of_readLexeme hread
    have hbefore := (hpassed.trans hgap).trans hlexeme
    have htile : IsTile source.toList passed.length (passed ++ gap).length
        (passed ++ gap ++ lexeme).length token :=
      isTile_of_leads hpassed hgap hisGap hbehind hlexeme hnonempty hposition hfreshLine hspells
    exact .cons htile (tiles_of_tokensFrom hbefore hfurther)
termination_by cursor.remaining
decreasing_by
  exact hlt

/-- The tokens of a source tile it, behind the line for the interpreter if there is one. -/
theorem tiles_of_readTokens {source : String} {tokens : List Token}
    (h : readTokens source = .ok tokens) :
    Tiles source.toList (interpreterLine source.toList).length tokens := by
  rw [readTokens] at h
  split at h
  · rename_i last hle hread
    cases h
    exact tiles_of_tokensFrom (leads_skipInterpreterLine (.start source)) ⟨hle, hread⟩
  · cases h

/-- The tokens of a sum over two lines as they are written. -/
def writtenSum : List Written :=
  [.plain .name "" "x", .plain .punctuator "\r\n" "+", .plain .number " " "1.5"]

/-- The carriage return and the line feed behind the name end one line. -/
theorem tiles_of_readTokens_sum :
    readTokens "x\r\n+ 1.5" = .ok [⟨.name, "x", ⟨1, 1⟩, false⟩, ⟨.punctuator, "+", ⟨2, 1⟩, true⟩,
        ⟨.number, "1.5", ⟨2, 3⟩, false⟩] ∧
      Tiles "x\r\n+ 1.5".toList 0 [⟨.name, "x", ⟨1, 1⟩, false⟩, ⟨.punctuator, "+", ⟨2, 1⟩, true⟩,
        ⟨.number, "1.5", ⟨2, 3⟩, false⟩] := by
  have hplain : Written.writesPlainly "x\r\n+ 1.5" writtenSum [] = true := by decide +kernel
  have hread := Written.readTokens_of_writesPlainly hplain
  have htokens : Written.tokens (.start "x\r\n+ 1.5") writtenSum =
      [⟨.name, "x", ⟨1, 1⟩, false⟩, ⟨.punctuator, "+", ⟨2, 1⟩, true⟩,
        ⟨.number, "1.5", ⟨2, 3⟩, false⟩] := by
    decide +kernel
  rw [htokens] at hread
  exact ⟨hread, tiles_of_readTokens hread⟩

/-- A private name whose only letter is written as an escape. -/
def escapedName : List Char :=
  ['#', '\\', 'u', '0', '0', '6', '1']

theorem legible_escapedName : Written.Legible [] ⟨[], escapedName, .privateName, "a"⟩ [] := by
  have hgap : Written.GapRead [] (escapedName ++ []) := Written.gapRead_spaces rfl (by decide)
  refine ⟨hgap, List.cons_ne_nil _ _, fun p => ?_⟩
  have hescape (q : Position) : unicodeEscape ⟨q, escapedName.tail⟩ =
      .ok ('a', Cursor.advance 6 ⟨q, escapedName.tail⟩) := rfl
  have hend (q : Position) : readName (Cursor.advance 6 ⟨q, escapedName.tail⟩) =
      .ok ([], Cursor.advance 6 ⟨q, escapedName.tail⟩) := by
    have hrest : (Cursor.advance 6 ⟨q, escapedName.tail⟩).rest = [] := rfl
    rw [Cursor.eq_of_rest hrest, readName_nil]
  have hname (q : Position) : readName ⟨q, escapedName.tail⟩ =
      .ok (['a'], Cursor.advance 6 ⟨q, escapedName.tail⟩) := by
    refine (readName_escape (hescape q)).trans ?_
    rw [hend]
    rfl
  dsimp only [List.append_nil]
  rw [List.append_nil, escapedName, readLexeme_privateName (by decide) []]
  exact congrArg (Except.map _) (hname _)

/-- A private name with an escape is not the text behind its `#`, which has no letter `a`. -/
theorem readTokens_escapedName :
    readTokens "#\\u0061" = .ok [⟨.privateName, "a", ⟨1, 1⟩, false⟩] ∧
      ∀ start stop, "#\\u0061".toList.extract start stop ≠ '#' :: "a".toList := by
  constructor
  · have hlegible : Written.AllLegible [] [] (.start "#\\u0061")
        [⟨[], escapedName, .privateName, "a"⟩] := .cons legible_escapedName .nil
    exact Written.readTokens_text rfl (by decide) hlegible rfl (Written.gapRead_spaces rfl rfl)
  · intro start stop htext
    have hmem : 'a' ∈ "#\\u0061".toList.extract start stop := by
      rw [htext]
      decide
    have hpart : 'a' ∈ "#\\u0061".toList := List.mem_of_mem_drop (List.mem_of_mem_take hmem)
    exact absurd hpart (by decide)

end RouteTable.Script
