import RouteTable.Proofs.Script.Readers
import Mathlib.Logic.Basic

/-!
Texts that are written token by token, each with spacing or a comment in front. Reading such a text
gives back the tokens, with the positions they were written at, if each of them is read for itself
and their brackets nest.
-/

namespace RouteTable.Script

theorem Cursor.eq_of_rest {cursor : Cursor} {s : List Char} (h : cursor.rest = s) :
    cursor = ⟨cursor.position, s⟩ := by
  rw [← h]

/-- As many characters as a text has lead behind it. -/
theorem Cursor.advance_append (p : Position) (s rest : List Char) :
    ∃ q, Cursor.advance s.length ⟨p, s ++ rest⟩ = ⟨q, rest⟩ :=
  ⟨_, Cursor.eq_of_rest (by simp)⟩

/-- A token as it is written, and what stands between the token before and it. -/
structure Written where
  gap : List Char
  lexeme : List Char
  kind : TokenClass
  value : String

namespace Written

def text : List Written → List Char
  | [] => []
  | written :: rest => written.gap ++ (written.lexeme ++ text rest)

def token (written : Written) (cursor : Cursor) : Token :=
  ⟨written.kind, written.value, (cursor.advance written.gap.length).position,
    written.gap.any isLineTerminator⟩

def after (written : Written) (cursor : Cursor) : Cursor :=
  (cursor.advance written.gap.length).advance written.lexeme.length

def tokens (cursor : Cursor) : List Written → List Token
  | [] => []
  | written :: rest => written.token cursor :: tokens (written.after cursor) rest

/-- Spacing and comments in front of a token are passed up to the token. -/
def GapRead (gap : List Char) (rest : List Char) : Prop :=
  ∀ p, skipSpacing false ⟨p, gap ++ rest⟩ =
    .ok (gap.any isLineTerminator, Cursor.advance gap.length ⟨p, gap ++ rest⟩)

/-- After the tokens `before`, the written token is read as what it stands for. -/
structure Legible (before : List Token) (written : Written) (rest : List Char) : Prop where
  gap : GapRead written.gap (written.lexeme ++ rest)
  ne_nil : written.lexeme ≠ []
  lexeme : ∀ p, (readLexeme before ⟨p, written.lexeme ++ rest⟩).map Subtype.val =
    .ok ((written.kind, written.value),
      Cursor.advance written.lexeme.length ⟨p, written.lexeme ++ rest⟩)

/-- Each of the written tokens is read for itself, with `rest` behind the last. -/
inductive AllLegible (rest : List Char) : List Token → Cursor → List Written → Prop where
  | nil {before : List Token} {cursor : Cursor} : AllLegible rest before cursor []
  | cons {before : List Token} {cursor : Cursor} {written : Written} {others : List Written}
      (hfirst : written.Legible before (text others ++ rest))
      (hothers : AllLegible rest (written.token cursor :: before) (written.after cursor) others) :
      AllLegible rest before cursor (written :: others)

/-- The openers of the brackets that are open after a token, the innermost first. -/
def nest (openers : List Char) (kind : TokenClass) (value : String) : Option (List Char) :=
  let token : Token := ⟨kind, value, .start, false⟩
  if token.isOpener then some (value.toList.headD ' ' :: openers)
  else if token.isCloser then
    match openers with
    | [] => none
    | innermost :: outer => if innermost == openerOf value then some outer else none
  else some openers

def nestAll (openers : List Char) : List Written → Option (List Char)
  | [] => some openers
  | written :: rest => (nest openers written.kind written.value).bind (nestAll · rest)

@[simp] theorem text_nil : text [] = [] :=
  rfl

@[simp] theorem text_cons (written : Written) (rest : List Written) :
    text (written :: rest) = written.gap ++ (written.lexeme ++ text rest) :=
  rfl

@[simp] theorem text_append (first second : List Written) :
    text (first ++ second) = text first ++ text second := by
  induction first with
  | nil => rfl
  | cons written rest ih => simp [ih]

theorem rest_after {written : Written} {cursor : Cursor} {rest : List Char}
    (h : cursor.rest = written.gap ++ (written.lexeme ++ rest)) :
    (written.after cursor).rest = rest := by
  simp [after, h]

/-- The brackets tracked along tokens have the openers that nesting gives. -/
theorem trackBrackets_of_nest {opened : List OpenBracket} {token : Token} {openers : List Char}
    (h : nest (opened.map OpenBracket.opener) token.kind token.value = some openers) :
    ∃ stillOpened, trackBrackets opened token = .ok stillOpened ∧
      stillOpened.map OpenBracket.opener = openers := by
  have hopener : ∀ p l, (Token.mk token.kind token.value p l).isOpener = token.isOpener :=
    fun _ _ => rfl
  have hcloser : ∀ p l, (Token.mk token.kind token.value p l).isCloser = token.isCloser :=
    fun _ _ => rfl
  simp only [nest, hopener, hcloser] at h
  unfold trackBrackets
  split at h
  · rename_i ho
    cases h
    exact ⟨_, by rw [if_pos ho], rfl⟩
  · rename_i ho
    rw [if_neg ho]
    split at h
    · rename_i hc
      rw [if_pos hc]
      cases opened with
      | nil => cases h
      | cons innermost outer =>
        simp only [List.map_cons, Option.ite_none_right_eq_some, Option.some.injEq] at h
        exact ⟨outer, by simp [h.1], h.2⟩
    · rename_i hc
      cases h
      exact ⟨opened, by rw [if_neg hc], rfl⟩

/-- The tokens from a cursor on, outside all templates and elements. -/
def readOn (before : List Token) (opened : List OpenBracket) (cursor : Cursor) :
    Except LexicalError (List Token) :=
  (tokensFrom false before opened cursor).map (·.1.1)

theorem readTokens_eq_readOn (source : String) :
    readTokens source = readOn [] [] (skipInterpreterLine (.start source)) := by
  rw [readTokens, readOn]
  cases tokensFrom false [] [] (skipInterpreterLine (.start source)) <;> rfl

theorem spacing_of_skipSpacing {cursor : Cursor} {result : Bool × Cursor}
    (h : skipSpacing false cursor = .ok result) :
    ∃ hle, spacing cursor = .ok ⟨result, hle⟩ := by
  refine ⟨remaining_skipSpacing_le h, ?_⟩
  unfold spacing
  split
  · rename_i hok
    cases h.symm.trans hok
    rfl
  · rename_i herror
    cases h.symm.trans herror

theorem readLexeme_of_map {before : List Token} {cursor : Cursor}
    {result : (TokenClass × String) × Cursor}
    (h : (readLexeme before cursor).map Subtype.val = .ok result) :
    ∃ hlt, readLexeme before cursor = .ok ⟨result, hlt⟩ := by
  cases hread : readLexeme before cursor with
  | error e =>
    rw [hread] at h
    cases h
  | ok read =>
    rw [hread] at h
    cases h
    exact ⟨read.2, rfl⟩

/-- A legible token is the next one, outside all templates and elements. -/
theorem readsToken_of_legible {before : List Token} {cursor : Cursor} {written : Written}
    {rest : List Char} (hrest : cursor.rest = written.gap ++ (written.lexeme ++ rest))
    (hlegible : written.Legible before rest) (opened : List OpenBracket) :
    ReadsToken false before opened cursor (written.token cursor) (written.after cursor) := by
  obtain ⟨p, s⟩ := cursor
  obtain rfl : s = _ := hrest
  obtain ⟨hgap, hne, hlexeme⟩ := hlegible
  obtain ⟨c, tail, htail⟩ := List.exists_cons_of_ne_nil hne
  obtain ⟨q, hstart⟩ := Cursor.advance_append p written.gap (written.lexeme ++ rest)
  have hspacing := spacing_of_skipSpacing (hgap p)
  obtain ⟨hlt, hread⟩ := readLexeme_of_map (hlexeme q)
  rw [hstart] at hspacing
  refine ⟨⟨q, written.lexeme ++ rest⟩, ⟨hspacing, c, tail ++ rest, ?_, rfl⟩, ?_, ?_⟩
  · rw [htail]
    rfl
  · rw [token, hstart]
  · rw [after, hstart]
    exact ⟨hlt, hread⟩

/-- Reading goes over a legible token and on behind it. -/
theorem readOn_legible {before : List Token} {opened stillOpened : List OpenBracket}
    {cursor : Cursor} {written : Written} {rest : List Char}
    (hrest : cursor.rest = written.gap ++ (written.lexeme ++ rest))
    (hlegible : written.Legible before rest)
    (htrack : trackBrackets opened (written.token cursor) = .ok stillOpened) :
    readOn before opened cursor =
      (readOn (written.token cursor :: before) stillOpened (written.after cursor)).map
        (written.token cursor :: ·) := by
  have hnext := readsToken_of_legible hrest hlegible opened
  rw [readOn, map_tokensFrom_of_readsToken hnext, htrack]
  rfl

/-- Reading goes over legible tokens whose brackets nest. -/
theorem readOn_allLegible {rest : List Char} {writtens : List Written} {before : List Token}
    {cursor : Cursor} (hlegible : AllLegible rest before cursor writtens)
    (hrest : cursor.rest = text writtens ++ rest) {opened : List OpenBracket} {openers : List Char}
    (hnest : nestAll (opened.map OpenBracket.opener) writtens = some openers) :
    ∃ stillOpened last, readOn before opened cursor =
        (readOn ((tokens cursor writtens).reverse ++ before) stillOpened last).map
          (tokens cursor writtens ++ ·) ∧
      stillOpened.map OpenBracket.opener = openers ∧ last.rest = rest := by
  induction hlegible generalizing opened with
  | @nil before cursor =>
    cases hnest
    refine ⟨opened, cursor, ?_, rfl, hrest⟩
    simp only [tokens, List.reverse_nil, List.nil_append]
    cases readOn before opened cursor <;> rfl
  | @cons before cursor written others hfirst hothers ih =>
    have hsplit : cursor.rest = written.gap ++ (written.lexeme ++ (text others ++ rest)) := by
      simpa using hrest
    obtain ⟨inner, hinner, hothersNest⟩ := Option.bind_eq_some_iff.1 hnest
    obtain ⟨middle, htrack, hmiddle⟩ : ∃ middle,
        trackBrackets opened (written.token cursor) = .ok middle ∧
          middle.map OpenBracket.opener = inner :=
      trackBrackets_of_nest hinner
    rw [← hmiddle] at hothersNest
    obtain ⟨stillOpened, last, hread, hopeners, hlast⟩ := ih (rest_after hsplit) hothersNest
    refine ⟨stillOpened, last, ?_, hopeners, hlast⟩
    rw [readOn_legible hsplit hfirst htrack, hread]
    simp only [tokens, List.reverse_cons, List.append_assoc, List.singleton_append]
    cases readOn _ stillOpened last <;> rfl

/-- Reading ends where only spacing is left and no bracket is open. -/
theorem readOn_of_spacing {before : List Token} {cursor last : Cursor} {ended : Bool}
    (h : skipSpacing false cursor = .ok (ended, last)) (hlast : last.rest = []) :
    readOn before [] cursor = .ok [] := by
  obtain ⟨hle, hspacing⟩ := spacing_of_skipSpacing h
  obtain ⟨q, s⟩ := last
  obtain rfl : s = _ := hlast
  rw [readOn, tokensFrom]
  simp only [hspacing]
  rfl

/-- A text written token by token, with spacing at its end, is read as its tokens. -/
theorem readTokens_text {writtens : List Written} {rest : List Char} {source : String}
    (hsource : source.toList = text writtens ++ rest)
    (hline : ['#', '!'].isPrefixOf source.toList = false)
    (hlegible : AllLegible rest [] (.start source) writtens)
    (hnest : nestAll [] writtens = some []) (hgap : GapRead rest []) :
    readTokens source = .ok (tokens (.start source) writtens) := by
  have hstart : skipInterpreterLine (.start source) = .start source := by
    rw [skipInterpreterLine, Cursor.startsWith, Cursor.start, hline]
    rfl
  have hnone : nestAll (([] : List OpenBracket).map OpenBracket.opener) writtens = some [] := hnest
  obtain ⟨stillOpened, last, hread, hopeners, hlast⟩ := readOn_allLegible hlegible hsource hnone
  obtain rfl := List.map_eq_nil_iff.1 hopeners
  obtain ⟨q, s⟩ := last
  obtain rfl : s = rest := hlast
  have hend := hgap q
  simp only [List.append_nil] at hend
  rw [readTokens_eq_readOn, hstart, hread, readOn_of_spacing hend (by simp)]
  simp [Except.map]

end Written

end RouteTable.Script
