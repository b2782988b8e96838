import RouteTable.Script.Tokens
import Mathlib.Logic.Relation

/-!
The readers that read a script and the calls among them: a script reads lexemes, templates and
elements read scripts. A call makes progress, and the failure of a reader that is called is that of
its caller.
-/

namespace RouteTable.Script

/-- Whether a reading from a cursor gives a result and leaves the cursor `after`. -/
def Gives {α : Type} {cursor : Cursor} (outcome : Except LexicalError (Within cursor α))
    (result : α) (after : Cursor) : Prop :=
  ∃ hle, outcome = .ok ⟨(result, after), hle⟩

/-- Whether a script goes on with a lexeme behind the cursor, and where that starts: neither does
the text end there, nor the script itself, which does between braces. -/
def ReadsLexeme (embedded : Bool) (opened : List OpenBracket) (cursor : Cursor)
    (freshLine : Bool) (start : Cursor) : Prop :=
  Gives (spacing cursor) freshLine start ∧
    ∃ c s, start.rest = c :: s ∧ (embedded && opened.isEmpty && c == '\x7d') = false

/-- Whether a token is the next one of a script, and where it ends. -/
def ReadsToken (embedded : Bool) (before : List Token) (opened : List OpenBracket)
    (cursor : Cursor) (token : Token) (after : Cursor) : Prop :=
  ∃ start, ReadsLexeme embedded opened cursor token.freshLine start ∧
    token.position = start.position ∧
      ∃ hlt, readLexeme before start = .ok ⟨((token.kind, token.value), after), hlt⟩

/-- A script is its next token, if the open brackets go with it, and the tokens behind that. -/
theorem map_tokensFrom_of_readsToken {embedded : Bool} {before : List Token}
    {opened : List OpenBracket} {cursor after : Cursor} {token : Token}
    (h : ReadsToken embedded before opened cursor token after) :
    (tokensFrom embedded before opened cursor).map (·.1.1) =
      (trackBrackets opened token).bind fun stillOpened =>
        ((tokensFrom embedded (token :: before) stillOpened after).map (·.1.1)).map
          (token :: ·) := by
  obtain ⟨start, ⟨⟨hle, hspacing⟩, c, s, hrest, hgoes⟩, hposition, hlt, hread⟩ := h
  obtain ⟨q, rest⟩ := start
  obtain rfl : rest = c :: s := hrest
  obtain ⟨kind, value, position, freshLine⟩ := token
  cases hposition
  rw [tokensFrom]
  simp only [hspacing, hgoes, hread, Bool.false_eq_true, if_false]
  cases htrack : trackBrackets opened ⟨kind, value, q, freshLine⟩ with
  | error e => rfl
  | ok stillOpened =>
    simp only [Except.bind]
    cases tokensFrom embedded (⟨kind, value, q, freshLine⟩ :: before) stillOpened after <;> rfl

/-- Whether nothing but spacing is left of a text. -/
def AtEnd (cursor : Cursor) : Prop :=
  ∃ freshLine start, Gives (spacing cursor) freshLine start ∧ start.rest = []

/-- Whether the name of an attribute comes next in a tag, and what stands behind it. -/
def NamesAttribute (cursor next : Cursor) : Prop :=
  ∃ freshLine ended p c s, Gives (spacing cursor) freshLine ⟨p, c :: s⟩ ∧
    isNameStart c = true ∧ c ≠ '\\' ∧
      Gives (spacing (Cursor.skipWhile isTagNamePart ⟨p, c :: s⟩)) ended next

/-- The readers of a script and of all that can hold one, with what they are given. -/
inductive Reader where
  | script (embedded : Bool) (before : List Token) (opened : List OpenBracket) (cursor : Cursor)
  | lexeme (before : List Token) (cursor : Cursor)
  | template (opened : Position) (cursor : Cursor)
  | element (cursor : Cursor)
  | attributes (opened : Position) (name : String) (cursor : Cursor)
  | attributeValue (cursor : Cursor)
  | children (opened : Position) (name : String) (cursor : Cursor)

namespace Reader

/-- The readers that a reader calls. Where it calls two, one after another, the second is called on
what the first has left. -/
inductive Calls : Reader → Reader → Prop where
  | lexeme {embedded freshLine : Bool} {before : List Token} {opened : List OpenBracket}
      {cursor start : Cursor} (h : ReadsLexeme embedded opened cursor freshLine start) :
      Calls (.script embedded before opened cursor) (.lexeme before start)
  | further {embedded : Bool} {before : List Token} {opened stillOpened : List OpenBracket}
      {cursor after : Cursor} {token : Token}
      (h : ReadsToken embedded before opened cursor token after)
      (htrack : trackBrackets opened token = .ok stillOpened) :
      Calls (.script embedded before opened cursor)
        (.script embedded (token :: before) stillOpened after)
  | template {before : List Token} {p : Position} {s : List Char} :
      Calls (.lexeme before ⟨p, '\x60' :: s⟩) (.template p (Cursor.next ⟨p, '\x60' :: s⟩))
  | element {before : List Token} {p : Position} {s : List Char}
      (hoperand : awaitsOperand before = true) (hopens : opensElement ('<' :: s) = true) :
      Calls (.lexeme before ⟨p, '<' :: s⟩) (.element (Cursor.next ⟨p, '<' :: s⟩))
  | templateEscape {opened p : Position} {c : Char} {s : List Char} :
      Calls (.template opened ⟨p, '\\' :: c :: s⟩)
        (.template opened (Cursor.advance 2 ⟨p, '\\' :: c :: s⟩))
  | templateText {opened p : Position} {c : Char} {s : List Char} (hend : c ≠ '\x60')
      (hescape : c ≠ '\\') (hscript : ¬ (c = '$' ∧ s.head? = some '\x7b')) :
      Calls (.template opened ⟨p, c :: s⟩) (.template opened (Cursor.next ⟨p, c :: s⟩))
  | templateScript {opened p : Position} {s : List Char} :
      Calls (.template opened ⟨p, '$' :: '\x7b' :: s⟩)
        (.script true [] [] (Cursor.advance 2 ⟨p, '$' :: '\x7b' :: s⟩))
  | templateAfter {opened p : Position} {s : List Char} {tokens : List Token} {after : Cursor}
      (h : Gives (tokensFrom true [] [] (Cursor.advance 2 ⟨p, '$' :: '\x7b' :: s⟩)) tokens after) :
      Calls (.template opened ⟨p, '$' :: '\x7b' :: s⟩) (.template opened after)
  | fragment {cursor start : Cursor} {freshLine : Bool}
      (hspacing : Gives (spacing cursor) freshLine start) (hend : start.startsWith ['>'] = true) :
      Calls (.element cursor) (.children cursor.position "" start.next)
  | tagName {cursor start : Cursor} {freshLine : Bool}
      (hspacing : Gives (spacing cursor) freshLine start) (hend : start.startsWith ['>'] = false) :
      Calls (.element cursor) (.attributes cursor.position
        (String.ofList (start.takeWhile isTagNamePart)) (start.skipWhile isTagNamePart))
  | tagEnd {opened p : Position} {name : String} {cursor : Cursor} {freshLine : Bool}
      {s : List Char} (hspacing : Gives (spacing cursor) freshLine ⟨p, '>' :: s⟩) :
      Calls (.attributes opened name cursor) (.children opened name (Cursor.next ⟨p, '>' :: s⟩))
  | attributeScript {opened p : Position} {name : String} {cursor : Cursor} {freshLine : Bool}
      {s : List Char} (hspacing : Gives (spacing cursor) freshLine ⟨p, '\x7b' :: s⟩) :
      Calls (.attributes opened name cursor)
        (.script true [] [] (Cursor.next ⟨p, '\x7b' :: s⟩))
  | attributeAfter {opened p : Position} {name : String} {cursor after : Cursor}
      {freshLine : Bool} {s : List Char} {tokens : List Token}
      (hspacing : Gives (spacing cursor) freshLine ⟨p, '\x7b' :: s⟩)
      (h : Gives (tokensFrom true [] [] (Cursor.next ⟨p, '\x7b' :: s⟩)) tokens after) :
      Calls (.attributes opened name cursor) (.attributes opened name after)
  | bareName {opened : Position} {name : String} {cursor next : Cursor}
      (hname : NamesAttribute cursor next) (hvalue : next.startsWith ['='] = false) :
      Calls (.attributes opened name cursor) (.attributes opened name next)
  | value {opened : Position} {name : String} {cursor next assigned : Cursor} {ended : Bool}
      (hname : NamesAttribute cursor next) (hvalue : next.startsWith ['='] = true)
      (hassigned : Gives (spacing next.next) ended assigned) :
      Calls (.attributes opened name cursor) (.attributeValue assigned)
  | valueAfter {opened : Position} {name : String} {cursor next assigned after : Cursor}
      {ended : Bool} (hname : NamesAttribute cursor next) (hvalue : next.startsWith ['='] = true)
      (hassigned : Gives (spacing next.next) ended assigned)
      (h : Gives (readAttributeValue assigned) () after) :
      Calls (.attributes opened name cursor) (.attributes opened name after)
  | valueScript {p : Position} {s : List Char} :
      Calls (.attributeValue ⟨p, '\x7b' :: s⟩)
        (.script true [] [] (Cursor.next ⟨p, '\x7b' :: s⟩))
  | valueElement {p : Position} {s : List Char} :
      Calls (.attributeValue ⟨p, '<' :: s⟩) (.element (Cursor.next ⟨p, '<' :: s⟩))
  | childScript {opened p : Position} {name : String} {s : List Char} :
      Calls (.children opened name ⟨p, '\x7b' :: s⟩)
        (.script true [] [] (Cursor.next ⟨p, '\x7b' :: s⟩))
  | childScriptAfter {opened p : Position} {name : String} {s : List Char} {tokens : List Token}
      {after : Cursor}
      (h : Gives (tokensFrom true [] [] (Cursor.next ⟨p, '\x7b' :: s⟩)) tokens after) :
      Calls (.children opened name ⟨p, '\x7b' :: s⟩) (.children opened name after)
  | childElement {opened p : Position} {name : String} {s : List Char} {start : Cursor}
      {freshLine : Bool} (hspacing : Gives (spacing (Cursor.next ⟨p, '<' :: s⟩)) freshLine start)
      (hopens : start.startsWith ['/'] = false) :
      Calls (.children opened name ⟨p, '<' :: s⟩) (.element start)
  | childElementAfter {opened p : Position} {name : String} {s : List Char}
      {start after : Cursor} {freshLine : Bool}
      (hspacing : Gives (spacing (Cursor.next ⟨p, '<' :: s⟩)) freshLine start)
      (hopens : start.startsWith ['/'] = false) (h : Gives (readElement start) () after) :
      Calls (.children opened name ⟨p, '<' :: s⟩) (.children opened name after)
  | childText {opened p : Position} {name : String} {c : Char} {s : List Char}
      (hscript : c ≠ '\x7b') (hopens : c ≠ '<') :
      Calls (.children opened name ⟨p, c :: s⟩) (.children opened name (Cursor.next ⟨p, c :: s⟩))

def Fails : Reader → LexicalError → Prop
  | .script embedded before opened cursor, e =>
    tokensFrom embedded before opened cursor = .error e
  | .lexeme before cursor, e => readLexeme before cursor = .error e
  | .template opened cursor, e => readTemplateLiteral opened cursor = .error e
  | .element cursor, e => readElement cursor = .error e
  | .attributes opened name cursor, e => readAttributes opened name cursor = .error e
  | .attributeValue cursor, e => readAttributeValue cursor = .error e
  | .children opened name cursor, e => readChildren opened name cursor = .error e

/-- The errors about brackets that a reader comes to itself: a closer that the open brackets of its
script do not fit, and the end of the text inside a bracket. -/
inductive Faults : Reader → LexicalError → Prop where
  | closer {embedded : Bool} {before : List Token} {opened : List OpenBracket}
      {cursor after : Cursor} {token : Token} {e : LexicalError}
      (h : ReadsToken embedded before opened cursor token after)
      (htrack : trackBrackets opened token = .error e) :
      Faults (.script embedded before opened cursor) e
  | unclosed {embedded : Bool} {before : List Token} {bracket : OpenBracket}
      {outer : List OpenBracket} {cursor : Cursor} (h : AtEnd cursor) :
      Faults (.script embedded before (bracket :: outer) cursor)
        ⟨bracket.position, .unclosed bracket.opener⟩

/-- What a call makes smaller: the text that is left, and for the same text the kind of reader. -/
def weight : Reader → Nat
  | .script _ _ _ cursor => 3 * cursor.remaining + 1
  | .lexeme _ cursor => 3 * cursor.remaining
  | .template _ cursor => 3 * cursor.remaining
  | .element cursor => 3 * cursor.remaining + 2
  | .attributes _ _ cursor => 3 * cursor.remaining + 1
  | .attributeValue cursor => 3 * cursor.remaining
  | .children _ _ cursor => 3 * cursor.remaining

section Weight

variable {cursor after : Cursor}

theorem remaining_of_gives {α : Type} {outcome : Except LexicalError (Within cursor α)}
    {result : α} (h : Gives outcome result after) : after.remaining ≤ cursor.remaining :=
  h.1

theorem remaining_of_startsWith {c : Char} (h : cursor.startsWith [c] = true) :
    cursor.next.remaining < cursor.remaining := by
  rcases cursor with ⟨p, _ | ⟨d, s⟩⟩
  · cases h
  · exact Cursor.remaining_next_lt rfl

/-- The name of an attribute is read behind the spacing in front of it. -/
theorem spacing_of_namesAttribute (h : NamesAttribute cursor after) :
    ∃ freshLine start, Gives (spacing cursor) freshLine start ∧
      after.remaining < start.remaining := by
  obtain ⟨_, _, p, c, s, hspacing, hstart, hstalled, hnext⟩ := h
  have hname := isTagNamePart_of_isNameStart hstart hstalled
  have hskip : (Cursor.skipWhile isTagNamePart ⟨p, c :: s⟩).remaining <
      (Cursor.mk p (c :: s)).remaining :=
    Cursor.remaining_skipWhile_lt rfl hname
  exact ⟨_, _, hspacing, Nat.lt_of_le_of_lt (remaining_of_gives hnext) hskip⟩

theorem remaining_of_namesAttribute (h : NamesAttribute cursor after) :
    after.remaining < cursor.remaining := by
  obtain ⟨_, start, hspacing, hlt⟩ := spacing_of_namesAttribute h
  exact Nat.lt_of_lt_of_le hlt (remaining_of_gives hspacing)

end Weight

/-- A call makes progress. -/
theorem weight_lt_of_calls {caller called : Reader} (h : Calls caller called) :
    called.weight < caller.weight := by
  cases h with
  | lexeme h =>
    have hle := remaining_of_gives h.1
    simp only [weight]
    omega
  | further h htrack =>
    obtain ⟨start, hlexeme, -, hlt, -⟩ := h
    have hle := remaining_of_gives hlexeme.1
    simp only [weight] at hlt ⊢
    omega
  | template | element | templateText | valueScript | valueElement | childScript | childText =>
    simp only [weight, Cursor.remaining, Cursor.rest_next, List.tail_cons, List.length_cons]
    omega
  | templateEscape | templateScript =>
    simp only [weight, Cursor.remaining, Cursor.rest_advance, List.drop_succ_cons, List.drop_zero,
      List.length_cons]
    omega
  | templateAfter h =>
    have hle := remaining_of_gives h
    simp only [weight, Cursor.remaining, Cursor.rest_advance, List.drop_succ_cons, List.drop_zero,
      List.length_cons] at hle ⊢
    omega
  | fragment hspacing hend =>
    have hle := remaining_of_gives hspacing
    have hlt := remaining_of_startsWith hend
    simp only [weight]
    omega
  | @tagName cursor start freshLine hspacing hend =>
    have hle := remaining_of_gives hspacing
    have hskip := Cursor.remaining_skipWhile_le isTagNamePart start
    simp only [weight]
    omega
  | tagEnd hspacing | attributeScript hspacing | childElement hspacing =>
    have hle := remaining_of_gives hspacing
    simp only [weight, Cursor.remaining, Cursor.rest_next, List.tail_cons,
      List.length_cons] at hle ⊢
    omega
  | attributeAfter hspacing h | childElementAfter hspacing _ h =>
    have hle := remaining_of_gives hspacing
    have hle' := remaining_of_gives h
    simp only [weight, Cursor.remaining, Cursor.rest_next, List.tail_cons,
      List.length_cons] at hle hle' ⊢
    omega
  | bareName hname hvalue =>
    have hlt := remaining_of_namesAttribute hname
    simp only [weight]
    omega
  | value hname hvalue hassigned =>
    have hlt := remaining_of_namesAttribute hname
    have hlt' := remaining_of_startsWith hvalue
    have hle := remaining_of_gives hassigned
    simp only [weight]
    omega
  | valueAfter hname hvalue hassigned h =>
    have hlt := remaining_of_namesAttribute hname
    have hlt' := remaining_of_startsWith hvalue
    have hle := remaining_of_gives hassigned
    have hle' := remaining_of_gives h
    simp only [weight]
    omega
  | childScriptAfter h =>
    have hle := remaining_of_gives h
    simp only [weight, Cursor.remaining, Cursor.rest_next, List.tail_cons,
      List.length_cons] at hle ⊢
    omega

/-- The first character of a name is none of those that end a tag or start a script in it. -/
theorem ne_of_isNameStart {c : Char} (h : isNameStart c = true) :
    c ≠ '/' ∧ c ≠ '>' ∧ c ≠ '\x7b' := by
  refine ⟨?_, ?_, ?_⟩
  all_goals
    rintro rfl
    revert h
    decide

theorem eq_error_of_map {α β : Type} {outcome : Except LexicalError α} {f : α → β}
    {e : LexicalError} (h : outcome.map f = .error e) : outcome = .error e := by
  cases outcome with
  | error cause =>
    cases h
    rfl
  | ok result => cases h

/-- The failure of a reader that is called is that of its caller. -/
theorem fails_of_calls {caller called : Reader} (h : Calls caller called) {e : LexicalError}
    (hfails : called.Fails e) : caller.Fails e := by
  cases h with
  | @lexeme embedded freshLine before opened cursor start h =>
    obtain ⟨⟨hle, hspacing⟩, c, s, hrest, hgoes⟩ := h
    obtain ⟨q, rest⟩ := start
    obtain rfl : rest = c :: s := hrest
    simp only [Fails] at hfails ⊢
    rw [tokensFrom]
    simp only [hspacing, hgoes, hfails, Bool.false_eq_true, if_false]
  | @further embedded before opened stillOpened cursor after token h htrack =>
    have hmap := map_tokensFrom_of_readsToken h
    simp only [Fails] at hfails ⊢
    rw [htrack, Except.bind, hfails] at hmap
    exact eq_error_of_map hmap
  | template =>
    simp only [Fails] at hfails ⊢
    rw [readLexeme]
    simp only [hfails, beq_self_eq_true, if_true]
  | element hoperand hopens =>
    simp only [Fails] at hfails ⊢
    rw [readLexeme]
    simp [hfails, hoperand, hopens]
  | templateEscape =>
    simp only [Fails] at hfails ⊢
    rw [readTemplateLiteral]
    simp [hfails]
  | templateText hend hescape hscript =>
    simp only [Fails] at hfails ⊢
    rw [readTemplateLiteral]
    simp [hfails, hend, hescape, hscript]
  | templateScript =>
    simp only [Fails] at hfails ⊢
    rw [readTemplateLiteral]
    simp [hfails]
  | templateAfter h =>
    obtain ⟨hle, hscript⟩ := h
    simp only [Fails] at hfails ⊢
    rw [readTemplateLiteral]
    simp [hscript, hfails]
  | fragment hspacing hend =>
    obtain ⟨hle, hspacing⟩ := hspacing
    simp only [Fails] at hfails ⊢
    rw [readElement]
    simp [hspacing, hend, hfails]
  | tagName hspacing hend =>
    obtain ⟨hle, hspacing⟩ := hspacing
    simp only [Fails] at hfails ⊢
    rw [readElement]
    simp [hspacing, hend, hfails]
  | tagEnd hspacing =>
    obtain ⟨hle, hspacing⟩ := hspacing
    simp only [Fails] at hfails ⊢
    rw [readAttributes]
    simp [hspacing, hfails]
  | attributeScript hspacing =>
    obtain ⟨hle, hspacing⟩ := hspacing
    simp only [Fails] at hfails ⊢
    rw [readAttributes]
    simp [hspacing, hfails]
  | attributeAfter hspacing h =>
    obtain ⟨hle, hspacing⟩ := hspacing
    obtain ⟨hle', hscript⟩ := h
    simp only [Fails] at hfails ⊢
    rw [readAttributes]
    simp [hspacing, hscript, hfails]
  | bareName hname hvalue =>
    obtain ⟨_, _, p, c, s, ⟨hle, hspacing⟩, hstart, hstalled, ⟨hle', hnext⟩⟩ := hname
    obtain ⟨hslash, hangle, hbrace⟩ := ne_of_isNameStart hstart
    simp only [Fails] at hfails ⊢
    rw [readAttributes]
    simp [hspacing, hslash, hangle, hbrace, hstart, hstalled, hnext, hvalue, hfails]
  | value hname hvalue hassigned =>
    obtain ⟨_, _, p, c, s, ⟨hle, hspacing⟩, hstart, hstalled, ⟨hle', hnext⟩⟩ := hname
    obtain ⟨hslash, hangle, hbrace⟩ := ne_of_isNameStart hstart
    obtain ⟨_, hassigned⟩ := hassigned
    simp only [Fails] at hfails ⊢
    rw [readAttributes]
    simp [hspacing, hslash, hangle, hbrace, hstart, hstalled, hnext, hvalue, hassigned, hfails]
  | valueAfter hname hvalue hassigned h =>
    obtain ⟨_, _, p, c, s, ⟨hle, hspacing⟩, hstart, hstalled, ⟨hle', hnext⟩⟩ := hname
    obtain ⟨hslash, hangle, hbrace⟩ := ne_of_isNameStart hstart
    obtain ⟨_, hassigned⟩ := hassigned
    obtain ⟨_, hread⟩ := h
    simp only [Fails] at hfails ⊢
    rw [readAttributes]
    simp [hspacing, hslash, hangle, hbrace, hstart, hstalled, hnext, hvalue, hassigned, hread,
      hfails]
  | valueScript =>
    simp only [Fails] at hfails ⊢
    rw [readAttributeValue]
    simp [hfails]
  | valueElement =>
    simp only [Fails] at hfails ⊢
    rw [readAttributeValue]
    simp [hfails]
  | childScript =>
    simp only [Fails] at hfails ⊢
    rw [readChildren]
    simp [hfails]
  | childScriptAfter h =>
    obtain ⟨hle, hscript⟩ := h
    simp only [Fails] at hfails ⊢
    rw [readChildren]
    simp [hscript, hfails]
  | childElement hspacing hopens =>
    obtain ⟨hle, hspacing⟩ := hspacing
    simp only [Fails] at hfails ⊢
    rw [readChildren]
    simp [hspacing, hopens, hfails]
  | childElementAfter hspacing hopens h =>
    obtain ⟨hle, hspacing⟩ := hspacing
    obtain ⟨hle', helement⟩ := h
    simp only [Fails] at hfails ⊢
    rw [readChildren]
    simp [hspacing, hopens, helement, hfails]
  | childText hscript hopens =>
    simp only [Fails] at hfails ⊢
    rw [readChildren]
    simp [hscript, hopens, hfails]

end Reader

end RouteTable.Script
