import RouteTable.Proofs.Script.Readers

/-!
What a reader that succeeds has come to. A script is its end or a token with a script behind it, a
lexeme is a template, an element or plain, and templates and elements are read part by part. Each
case has the readings that it is put together from, which give the whole again.
-/

namespace RouteTable.Script

open Cursor

section Gives

variable {α : Type} {cursor after after' : Cursor}
  {outcome : Except LexicalError (Within cursor α)} {result result' : α}

theorem gives_iff :
    Gives outcome result after ↔ outcome.map Subtype.val = .ok (result, after) := by
  constructor
  · rintro ⟨hle, rfl⟩
    rfl
  · intro h
    rcases outcome with e | ⟨read, hle⟩
    · cases h
    · cases h
      exact ⟨hle, rfl⟩

theorem Gives.unique (h : Gives outcome result after) (h' : Gives outcome result' after') :
    result' = result ∧ after' = after := by
  rw [gives_iff] at h h'
  cases h.symm.trans h'
  exact ⟨rfl, rfl⟩

end Gives

section Scripts

variable {embedded freshLine : Bool} {before tokens further : List Token}
  {opened stillOpened : List OpenBracket} {cursor start after last : Cursor} {token : Token}
  {s : List Char}

/-- The end of the text ends a script. -/
theorem gives_tokensFrom_end (hspacing : Gives (spacing cursor) freshLine start)
    (hend : start.rest = []) : Gives (tokensFrom false before [] cursor) [] start := by
  obtain ⟨_, hspacing⟩ := hspacing
  obtain ⟨p, rest⟩ := start
  obtain rfl : rest = [] := hend
  rw [gives_iff, tokensFrom]
  simp only [hspacing]
  rfl

/-- A closing brace ends a script between braces. -/
theorem gives_tokensFrom_brace (hspacing : Gives (spacing cursor) freshLine start)
    (hclose : start.rest = '\x7d' :: s) :
    Gives (tokensFrom true before [] cursor) [] start.next := by
  obtain ⟨_, hspacing⟩ := hspacing
  obtain ⟨p, rest⟩ := start
  obtain rfl : rest = '\x7d' :: s := hclose
  rw [gives_iff, tokensFrom]
  simp only [hspacing]
  rfl

/-- A token and the script behind it are a script. -/
theorem gives_tokensFrom (h : ReadsToken embedded before opened cursor token after)
    (htrack : trackBrackets opened token = .ok stillOpened)
    (hfurther : Gives (tokensFrom embedded (token :: before) stillOpened after) further last) :
    Gives (tokensFrom embedded before opened cursor) (token :: further) last := by
  obtain ⟨start, ⟨⟨hle, hspacing⟩, c, s, hrest, hgoes⟩, hposition, hlt, hread⟩ := h
  obtain ⟨_, hfurther⟩ := hfurther
  obtain ⟨q, rest⟩ := start
  obtain rfl : rest = c :: s := hrest
  obtain ⟨kind, value, position, freshLine⟩ := token
  cases hposition
  rw [gives_iff, tokensFrom]
  simp only [hspacing, hgoes, hread, htrack, hfurther, Bool.false_eq_true, if_false]
  rfl

/-- What the reading of a script comes to: its end, or a token and the script behind that. -/
theorem tokensFrom_cases (h : Gives (tokensFrom embedded before opened cursor) tokens last) :
    (∃ freshLine start, Gives (spacing cursor) freshLine start ∧ tokens = [] ∧ opened = [] ∧
      (embedded = false ∧ start.rest = [] ∧ last = start ∨
        embedded = true ∧ start.rest.head? = some '\x7d' ∧ last = start.next)) ∨
    ∃ token after stillOpened further, tokens = token :: further ∧
      ReadsToken embedded before opened cursor token after ∧
        trackBrackets opened token = .ok stillOpened ∧
          Gives (tokensFrom embedded (token :: before) stillOpened after) further last := by
  obtain ⟨_, h⟩ := h
  rw [tokensFrom] at h
  split at h
  · cases h
  · rename_i freshLine start hstart hspacing
    split at h
    · rename_i hend
      split at h
      · cases h
      · split at h
        · cases h
        · rename_i hscript
          cases h
          exact .inl ⟨_, _, ⟨hstart, hspacing⟩, rfl, rfl, .inl ⟨by simpa using hscript, hend, rfl⟩⟩
    · rename_i c s hs
      split at h
      · rename_i hclose
        cases h
        simp only [Bool.and_eq_true, List.isEmpty_iff, beq_iff_eq] at hclose
        obtain ⟨⟨hembedded, hopened⟩, rfl⟩ := hclose
        exact .inl ⟨_, _, ⟨hstart, hspacing⟩, rfl, hopened, .inr ⟨hembedded, by simp [hs], rfl⟩⟩
      · rename_i hgoes
        split at h
        · cases h
        · rename_i kind value after hafter hread
          dsimp only at h
          split at h
          · cases h
          · rename_i stillOpened htrack
            split at h
            · cases h
            · rename_i further hlast hfurther
              cases h
              exact .inr ⟨_, _, _, _, rfl,
                ⟨start, ⟨⟨hstart, hspacing⟩, c, s, hs, Bool.eq_false_iff.2 hgoes⟩, rfl, hafter,
                  hread⟩, htrack, _, hfurther⟩

end Scripts

/-- A tag that closes an element is its name and the bracket behind it. -/
theorem gives_closingTag_iff {name : String} {cursor after : Cursor} :
    Gives (closingTag name cursor) () after ↔ ∃ freshLine ended start last,
      Gives (spacing cursor) freshLine start ∧
        String.ofList (start.takeWhile isTagNamePart) = name ∧
          Gives (spacing (start.skipWhile isTagNamePart)) ended last ∧
            last.startsWith ['>'] = true ∧ after = last.next := by
  constructor
  · rintro ⟨_, h⟩
    unfold closingTag at h
    split at h
    · cases h
    · rename_i hspacing
      dsimp only at h
      split at h
      · cases h
      · rename_i hbehind
        split at h
        · rename_i hend
          split at h
          · rename_i hname
            cases h
            exact ⟨_, _, _, _, ⟨_, hspacing⟩, eq_of_beq hname, ⟨_, hbehind⟩, hend, rfl⟩
          · cases h
        · cases h
  · rintro ⟨freshLine, ended, start, last, ⟨_, hspacing⟩, hname, ⟨_, hbehind⟩, hend, rfl⟩
    rw [gives_iff, closingTag]
    simp only [hspacing, hbehind, hend, hname, beq_self_eq_true, if_true]
    rfl

section Lexemes

variable {before : List Token} {p : Position} {s : List Char} {cursor after : Cursor}

theorem readLexeme_template
    (h : Gives (readTemplateLiteral p (Cursor.next ⟨p, '\x60' :: s⟩)) () after) :
    (readLexeme before ⟨p, '\x60' :: s⟩).map Subtype.val = .ok ((.template, ""), after) := by
  obtain ⟨_, h⟩ := h
  rw [readLexeme]
  dsimp only
  rw [if_pos (by decide)]
  simp only [h]
  rfl

/-- A `<` that opens an element where an operand may stand is read as the element. -/
theorem readLexeme_element (hawaits : awaitsOperand before = true)
    (hopens : opensElement ('<' :: s) = true)
    (h : Gives (readElement (Cursor.next ⟨p, '<' :: s⟩)) () after) :
    (readLexeme before ⟨p, '<' :: s⟩).map Subtype.val = .ok ((.element, ""), after) := by
  obtain ⟨_, h⟩ := h
  rw [readLexeme]
  dsimp only
  rw [if_neg (by decide), if_pos (by simp [hawaits, hopens])]
  simp only [h]
  rfl

/-- What the reading of a lexeme comes to: a template, an element, or a plain lexeme. -/
theorem readLexeme_cases {result : TokenClass × String} {hlt : after.remaining < cursor.remaining}
    (h : readLexeme before cursor = .ok ⟨(result, after), hlt⟩) :
    (∃ p s, cursor = ⟨p, '\x60' :: s⟩ ∧ result = (.template, "") ∧
        Gives (readTemplateLiteral p (Cursor.next ⟨p, '\x60' :: s⟩)) () after) ∨
      (∃ p s, cursor = ⟨p, '<' :: s⟩ ∧ result = (.element, "") ∧ awaitsOperand before = true ∧
        opensElement ('<' :: s) = true ∧ Gives (readElement (Cursor.next ⟨p, '<' :: s⟩)) () after) ∨
      ∃ p c s, cursor = ⟨p, c :: s⟩ ∧ c ≠ '\x60' ∧
        (c == '<' && awaitsOperand before && opensElement (c :: s)) = false ∧
          readPlain before cursor = .ok ⟨(result, after), hlt⟩ := by
  rcases cursor with ⟨p, _ | ⟨c, s⟩⟩
  · exact absurd hlt (Nat.not_lt_zero _)
  · rw [readLexeme] at h
    dsimp only at h
    split at h
    · rename_i hquote
      obtain rfl : c = '\x60' := by simpa using hquote
      split at h
      · cases h
      · rename_i hread
        cases h
        exact .inl ⟨p, s, rfl, rfl, _, hread⟩
    · rename_i hquote
      split at h
      · rename_i hopens
        simp only [Bool.and_eq_true, beq_iff_eq] at hopens
        obtain ⟨⟨rfl, hawaits⟩, hopens⟩ := hopens
        split at h
        · cases h
        · rename_i hread
          cases h
          exact .inr (.inl ⟨p, s, rfl, rfl, hawaits, hopens, _, hread⟩)
      · rename_i hangle
        exact .inr (.inr ⟨p, c, s, rfl, by simpa using hquote, Bool.eq_false_iff.2 hangle, h⟩)

end Lexemes

namespace Reader

def Leaves : Reader → Cursor → Prop
  | .script embedded before opened cursor, after =>
    ∃ tokens, Gives (tokensFrom embedded before opened cursor) tokens after
  | .lexeme before cursor, after =>
    ∃ result hlt, readLexeme before cursor = .ok ⟨(result, after), hlt⟩
  | .template opened cursor, after => Gives (readTemplateLiteral opened cursor) () after
  | .element cursor, after => Gives (readElement cursor) () after
  | .attributes opened name cursor, after => Gives (readAttributes opened name cursor) () after
  | .attributeValue cursor, after => Gives (readAttributeValue cursor) () after
  | .children opened name cursor, after => Gives (readChildren opened name cursor) () after

/-- How templates and the parts of elements are read, with the readings behind and within them. -/
inductive Reads : Reader → Cursor → Prop where
  | templateEnd {opened p : Position} {s : List Char} :
      Reads (.template opened ⟨p, '\x60' :: s⟩) (Cursor.next ⟨p, '\x60' :: s⟩)
  | templateEscape {opened p : Position} {c : Char} {s : List Char} {last : Cursor}
      (hread : Gives (readTemplateLiteral opened (Cursor.advance 2 ⟨p, '\\' :: c :: s⟩)) () last) :
      Reads (.template opened ⟨p, '\\' :: c :: s⟩) last
  | templateText {opened p : Position} {c : Char} {s : List Char} {last : Cursor}
      (hend : c ≠ '\x60') (hescape : c ≠ '\\') (hscript : ¬ (c = '$' ∧ s.head? = some '\x7b'))
      (hread : Gives (readTemplateLiteral opened (Cursor.next ⟨p, c :: s⟩)) () last) :
      Reads (.template opened ⟨p, c :: s⟩) last
  | templateScript {opened p : Position} {s : List Char} {tokens : List Token}
      {after last : Cursor}
      (hscript : Gives (tokensFrom true [] [] (Cursor.advance 2 ⟨p, '$' :: '\x7b' :: s⟩))
        tokens after)
      (hread : Gives (readTemplateLiteral opened after) () last) :
      Reads (.template opened ⟨p, '$' :: '\x7b' :: s⟩) last
  | fragment {cursor start last : Cursor} {freshLine : Bool}
      (hspacing : Gives (spacing cursor) freshLine start) (hend : start.startsWith ['>'] = true)
      (hread : Gives (readChildren cursor.position "" start.next) () last) :
      Reads (.element cursor) last
  | tagName {cursor start last : Cursor} {freshLine : Bool}
      (hspacing : Gives (spacing cursor) freshLine start) (hend : start.startsWith ['>'] = false)
      (hread : Gives (readAttributes cursor.position
        (String.ofList (start.takeWhile isTagNamePart)) (start.skipWhile isTagNamePart)) () last) :
      Reads (.element cursor) last
  | selfClosing {opened p : Position} {name : String} {cursor : Cursor} {freshLine : Bool}
      {s : List Char} (hspacing : Gives (spacing cursor) freshLine ⟨p, '/' :: s⟩)
      (hend : (Cursor.next ⟨p, '/' :: s⟩).startsWith ['>'] = true) :
      Reads (.attributes opened name cursor) (Cursor.next ⟨p, '/' :: s⟩).next
  | tagEnd {opened p : Position} {name : String} {cursor last : Cursor} {freshLine : Bool}
      {s : List Char} (hspacing : Gives (spacing cursor) freshLine ⟨p, '>' :: s⟩)
      (hread : Gives (readChildren opened name (Cursor.next ⟨p, '>' :: s⟩)) () last) :
      Reads (.attributes opened name cursor) last
  | attributeScript {opened p : Position} {name : String} {cursor after last : Cursor}
      {freshLine : Bool} {s : List Char} {tokens : List Token}
      (hspacing : Gives (spacing cursor) freshLine ⟨p, '\x7b' :: s⟩)
      (hscript : Gives (tokensFrom true [] [] (Cursor.next ⟨p, '\x7b' :: s⟩)) tokens after)
      (hread : Gives (readAttributes opened name after) () last) :
      Reads (.attributes opened name cursor) last
  | bareName {opened : Position} {name : String} {cursor next last : Cursor}
      (hname : NamesAttribute cursor next) (hvalue : next.startsWith ['='] = false)
      (hread : Gives (readAttributes opened name next) () last) :
      Reads (.attributes opened name cursor) last
  | value {opened : Position} {name : String} {cursor next assigned after last : Cursor}
      {ended : Bool} (hname : NamesAttribute cursor next) (hvalue : next.startsWith ['='] = true)
      (hassigned : Gives (spacing next.next) ended assigned)
      (hgives : Gives (readAttributeValue assigned) () after)
      (hread : Gives (readAttributes opened name after) () last) :
      Reads (.attributes opened name cursor) last
  | quoted {p : Position} {c : Char} {s : List Char} {last : Cursor}
      (hquote : c = '"' ∨ c = '\'')
      (hread : Gives (skipQuoted c p (Cursor.next ⟨p, c :: s⟩)) () last) :
      Reads (.attributeValue ⟨p, c :: s⟩) last
  | valueScript {p : Position} {s : List Char} {tokens : List Token} {last : Cursor}
      (hread : Gives (tokensFrom true [] [] (Cursor.next ⟨p, '\x7b' :: s⟩)) tokens last) :
      Reads (.attributeValue ⟨p, '\x7b' :: s⟩) last
  | valueElement {p : Position} {s : List Char} {last : Cursor}
      (hread : Gives (readElement (Cursor.next ⟨p, '<' :: s⟩)) () last) :
      Reads (.attributeValue ⟨p, '<' :: s⟩) last
  | childScript {opened p : Position} {name : String} {s : List Char} {tokens : List Token}
      {after last : Cursor}
      (hscript : Gives (tokensFrom true [] [] (Cursor.next ⟨p, '\x7b' :: s⟩)) tokens after)
      (hread : Gives (readChildren opened name after) () last) :
      Reads (.children opened name ⟨p, '\x7b' :: s⟩) last
  | closing {opened p : Position} {name : String} {s : List Char} {start last : Cursor}
      {freshLine : Bool} (hspacing : Gives (spacing (Cursor.next ⟨p, '<' :: s⟩)) freshLine start)
      (hslash : start.startsWith ['/'] = true)
      (hread : Gives (closingTag name start.next) () last) :
      Reads (.children opened name ⟨p, '<' :: s⟩) last
  | childElement {opened p : Position} {name : String} {s : List Char}
      {start after last : Cursor} {freshLine : Bool}
      (hspacing : Gives (spacing (Cursor.next ⟨p, '<' :: s⟩)) freshLine start)
      (hslash : start.startsWith ['/'] = false) (helement : Gives (readElement start) () after)
      (hread : Gives (readChildren opened name after) () last) :
      Reads (.children opened name ⟨p, '<' :: s⟩) last
  | childText {opened p : Position} {name : String} {c : Char} {s : List Char} {last : Cursor}
      (hscript : c ≠ '\x7b') (hopens : c ≠ '<')
      (hread : Gives (readChildren opened name (Cursor.next ⟨p, c :: s⟩)) () last) :
      Reads (.children opened name ⟨p, c :: s⟩) last

/-- What is read part by part is read. -/
theorem Reads.leaves {reader : Reader} {last : Cursor} (h : Reads reader last) :
    reader.Leaves last := by
  cases h with
  | templateEnd =>
    rw [Leaves, gives_iff, readTemplateLiteral]
    rfl
  | templateEscape hread =>
    obtain ⟨_, hread⟩ := hread
    rw [Leaves, gives_iff, readTemplateLiteral]
    simp [hread, Except.map]
  | templateText hend hescape hscript hread =>
    obtain ⟨_, hread⟩ := hread
    rw [Leaves, gives_iff, readTemplateLiteral]
    dsimp only
    rw [if_neg (by simpa using hend), if_neg (by simpa using hescape),
      if_neg (by simpa using hscript)]
    simp only [hread]
    rfl
  | templateScript hscript hread =>
    obtain ⟨_, hscript⟩ := hscript
    obtain ⟨_, hread⟩ := hread
    rw [Leaves, gives_iff, readTemplateLiteral]
    dsimp only
    rw [if_neg (by decide), if_neg (by decide), if_pos (by simp)]
    simp only [hscript, hread]
    rfl
  | fragment hspacing hend hread =>
    obtain ⟨_, hspacing⟩ := hspacing
    obtain ⟨_, hread⟩ := hread
    rw [Leaves, gives_iff, readElement]
    simp only [hspacing, hend, hread, dite_true]
    rfl
  | tagName hspacing hend hread =>
    obtain ⟨_, hspacing⟩ := hspacing
    obtain ⟨_, hread⟩ := hread
    rw [Leaves, gives_iff, readElement]
    simp only [hspacing, hend, hread, Bool.false_eq_true, dite_false]
    rfl
  | selfClosing hspacing hend =>
    obtain ⟨_, hspacing⟩ := hspacing
    rw [Leaves, gives_iff, readAttributes]
    simp only [hspacing, hend, beq_self_eq_true, if_true]
    rfl
  | tagEnd hspacing hread =>
    obtain ⟨_, hspacing⟩ := hspacing
    obtain ⟨_, hread⟩ := hread
    have hslash : ('>' == '/') = false := by decide
    rw [Leaves, gives_iff, readAttributes]
    simp only [hspacing, hslash, hread, beq_self_eq_true, Bool.false_eq_true, if_false, if_true]
    rfl
  | attributeScript hspacing hscript hread =>
    obtain ⟨_, hspacing⟩ := hspacing
    obtain ⟨_, hscript⟩ := hscript
    obtain ⟨_, hread⟩ := hread
    have hslash : ('\x7b' == '/') = false := by decide
    have hend : ('\x7b' == '>') = false := by decide
    rw [Leaves, gives_iff, readAttributes]
    simp only [hspacing, hslash, hend, hscript, hread, beq_self_eq_true, Bool.false_eq_true,
      if_false, if_true]
    rfl
  | bareName hname hvalue hread =>
    obtain ⟨_, _, p, c, s, ⟨_, hspacing⟩, hstart, hstalled, ⟨_, hnext⟩⟩ := hname
    obtain ⟨hslash, hangle, hbrace⟩ := ne_of_isNameStart hstart
    obtain ⟨_, hread⟩ := hread
    rw [Leaves, gives_iff, readAttributes]
    simp only [hspacing, beq_iff_eq, hslash, hangle, hbrace, hstalled, hstart, if_false,
      dite_false, dite_true, hnext, hvalue, hread, Bool.false_eq_true]
    rfl
  | value hname hvalue hassigned hgives hread =>
    obtain ⟨_, _, p, c, s, ⟨_, hspacing⟩, hstart, hstalled, ⟨_, hnext⟩⟩ := hname
    obtain ⟨hslash, hangle, hbrace⟩ := ne_of_isNameStart hstart
    obtain ⟨_, hassigned⟩ := hassigned
    obtain ⟨_, hgives⟩ := hgives
    obtain ⟨_, hread⟩ := hread
    rw [Leaves, gives_iff, readAttributes]
    simp only [hspacing, beq_iff_eq, hslash, hangle, hbrace, hstalled, hstart, if_false,
      dite_false, dite_true, hnext, hvalue, hassigned, hgives, hread, if_true]
    rfl
  | quoted hquote hread =>
    obtain ⟨_, hread⟩ := hread
    rw [Leaves, gives_iff, readAttributeValue]
    dsimp only
    rw [if_pos (by simpa using hquote)]
    simp only [hread]
    rfl
  | valueScript hread =>
    obtain ⟨_, hread⟩ := hread
    rw [Leaves, gives_iff, readAttributeValue]
    dsimp only
    rw [if_neg (by decide), if_pos (by decide)]
    simp only [hread]
    rfl
  | valueElement hread =>
    obtain ⟨_, hread⟩ := hread
    rw [Leaves, gives_iff, readAttributeValue]
    dsimp only
    rw [if_neg (by decide), if_neg (by decide), if_pos (by decide)]
    simp only [hread]
    rfl
  | childScript hscript hread =>
    obtain ⟨_, hscript⟩ := hscript
    obtain ⟨_, hread⟩ := hread
    rw [Leaves, gives_iff, readChildren]
    dsimp only
    rw [if_pos (by decide)]
    simp only [hscript, hread]
    rfl
  | closing hspacing hslash hread =>
    obtain ⟨_, hspacing⟩ := hspacing
    obtain ⟨_, hread⟩ := hread
    rw [Leaves, gives_iff, readChildren]
    dsimp only
    rw [if_neg (by decide), if_pos (by decide)]
    simp only [hspacing, hslash, hread, if_true]
    rfl
  | childElement hspacing hslash helement hread =>
    obtain ⟨_, hspacing⟩ := hspacing
    obtain ⟨_, helement⟩ := helement
    obtain ⟨_, hread⟩ := hread
    rw [Leaves, gives_iff, readChildren]
    dsimp only
    rw [if_neg (by decide), if_pos (by decide)]
    simp only [hspacing, hslash, helement, hread, Bool.false_eq_true, if_false]
    rfl
  | childText hscript hopens hread =>
    obtain ⟨_, hread⟩ := hread
    rw [Leaves, gives_iff, readChildren]
    dsimp only
    rw [if_neg (by simpa using hscript), if_neg (by simpa using hopens)]
    simp only [hread]
    rfl

section Cases

variable {opened : Position} {name : String} {cursor last : Cursor}

theorem reads_template (h : Gives (readTemplateLiteral opened cursor) () last) :
    Reads (.template opened cursor) last := by
  obtain ⟨_, h⟩ := h
  rcases cursor with ⟨p, _ | ⟨c, s⟩⟩
  · rw [readTemplateLiteral] at h
    cases h
  · rw [readTemplateLiteral] at h
    dsimp only at h
    split at h
    · rename_i hend
      obtain rfl : c = '\x60' := by simpa using hend
      cases h
      exact .templateEnd
    · rename_i hend
      split at h
      · rename_i hescape
        obtain rfl : c = '\\' := by simpa using hescape
        rcases s with _ | ⟨d, s⟩
        · cases h
        · rw [if_neg (by simp)] at h
          split at h
          · cases h
          · rename_i hread
            cases h
            exact .templateEscape ⟨_, hread⟩
      · rename_i hescape
        split at h
        · rename_i hscript
          simp only [Bool.and_eq_true, beq_iff_eq] at hscript
          obtain ⟨rfl, hhead⟩ := hscript
          obtain ⟨s, rfl⟩ := List.head?_eq_some_iff.1 hhead
          split at h
          · cases h
          · rename_i hscript
            split at h
            · cases h
            · rename_i hread
              cases h
              exact .templateScript ⟨_, hscript⟩ ⟨_, hread⟩
        · rename_i hscript
          split at h
          · cases h
          · rename_i hread
            cases h
            exact .templateText (by simpa using hend) (by simpa using hescape)
              (by simpa using hscript) ⟨_, hread⟩

theorem reads_element (h : Gives (readElement cursor) () last) : Reads (.element cursor) last := by
  obtain ⟨_, h⟩ := h
  rw [readElement] at h
  split at h
  · cases h
  · rename_i hspacing
    split at h
    · rename_i hend
      split at h
      · cases h
      · rename_i hread
        cases h
        exact .fragment ⟨_, hspacing⟩ hend ⟨_, hread⟩
    · rename_i hend
      dsimp only at h
      split at h
      · cases h
      · rename_i hread
        cases h
        exact .tagName ⟨_, hspacing⟩ (Bool.eq_false_iff.2 hend) ⟨_, hread⟩

/-- Behind the name of an attribute come its value, if it has one, and the other attributes. -/
theorem reads_attributeName {p : Position} {freshLine : Bool} {c : Char} {s : List Char}
    (hspacing : Gives (spacing cursor) freshLine ⟨p, c :: s⟩) (hstart : isNameStart c = true)
    (hstalled : c ≠ '\\') (h : Gives (readAttributes opened name cursor) () last) :
    Reads (.attributes opened name cursor) last := by
  have hspaces := hspacing
  obtain ⟨_, hspaces⟩ := hspaces
  obtain ⟨hslash, hangle, hbrace⟩ := ne_of_isNameStart hstart
  obtain ⟨_, h⟩ := h
  rw [readAttributes] at h
  simp only [hspaces, beq_iff_eq, hslash, hangle, hbrace, hstalled, hstart, if_false,
    dite_false, dite_true] at h
  split at h
  · cases h
  · rename_i next hnamed hnext
    have hname : NamesAttribute cursor next :=
      ⟨_, _, p, c, s, hspacing, hstart, hstalled, ⟨hnamed, hnext⟩⟩
    split at h
    · rename_i hvalue
      split at h
      · cases h
      · rename_i hassigned
        split at h
        · cases h
        · rename_i hgives
          split at h
          · cases h
          · rename_i hread
            cases h
            exact .value hname hvalue ⟨_, hassigned⟩ ⟨_, hgives⟩ ⟨_, hread⟩
    · rename_i hvalue
      split at h
      · cases h
      · rename_i hread
        cases h
        exact .bareName hname (Bool.eq_false_iff.2 hvalue) ⟨_, hread⟩

theorem reads_attributes (hgives : Gives (readAttributes opened name cursor) () last) :
    Reads (.attributes opened name cursor) last := by
  have h := hgives
  obtain ⟨_, h⟩ := h
  rw [readAttributes] at h
  split at h
  · cases h
  · rename_i freshLine start hle hspacing
    rcases start with ⟨p, _ | ⟨c, s⟩⟩
    · cases h
    · dsimp only at h
      split at h
      · rename_i hslash
        obtain rfl : c = '/' := by simpa using hslash
        split at h
        · rename_i hend
          cases h
          exact .selfClosing ⟨hle, hspacing⟩ hend
        · cases h
      · split at h
        · rename_i hend
          obtain rfl : c = '>' := by simpa using hend
          split at h
          · cases h
          · rename_i hread
            cases h
            exact .tagEnd ⟨hle, hspacing⟩ ⟨_, hread⟩
        · split at h
          · rename_i hbrace
            obtain rfl : c = '\x7b' := by simpa using hbrace
            split at h
            · cases h
            · rename_i hscript
              split at h
              · cases h
              · rename_i hread
                cases h
                exact .attributeScript ⟨hle, hspacing⟩ ⟨_, hscript⟩ ⟨_, hread⟩
          · split at h
            · cases h
            · rename_i hstalled
              split at h
              · rename_i hname
                exact reads_attributeName ⟨hle, hspacing⟩ hname hstalled hgives
              · cases h

theorem reads_attributeValue (h : Gives (readAttributeValue cursor) () last) :
    Reads (.attributeValue cursor) last := by
  obtain ⟨_, h⟩ := h
  rcases cursor with ⟨p, _ | ⟨c, s⟩⟩
  · rw [readAttributeValue] at h
    cases h
  · rw [readAttributeValue] at h
    dsimp only at h
    split at h
    · rename_i hquote
      split at h
      · cases h
      · rename_i hread
        cases h
        exact .quoted (by simpa using hquote) ⟨_, hread⟩
    · split at h
      · rename_i hbrace
        obtain rfl : c = '\x7b' := by simpa using hbrace
        split at h
        · cases h
        · rename_i hread
          cases h
          exact .valueScript ⟨_, hread⟩
      · split at h
        · rename_i hangle
          obtain rfl : c = '<' := by simpa using hangle
          split at h
          · cases h
          · rename_i hread
            cases h
            exact .valueElement ⟨_, hread⟩
        · cases h

theorem reads_children (h : Gives (readChildren opened name cursor) () last) :
    Reads (.children opened name cursor) last := by
  obtain ⟨_, h⟩ := h
  rcases cursor with ⟨p, _ | ⟨c, s⟩⟩
  · rw [readChildren] at h
    cases h
  · rw [readChildren] at h
    dsimp only at h
    split at h
    · rename_i hbrace
      obtain rfl : c = '\x7b' := by simpa using hbrace
      split at h
      · cases h
      · rename_i hscript
        split at h
        · cases h
        · rename_i hread
          cases h
          exact .childScript ⟨_, hscript⟩ ⟨_, hread⟩
    · rename_i hbrace
      split at h
      · rename_i hangle
        obtain rfl : c = '<' := by simpa using hangle
        split at h
        · cases h
        · rename_i hspacing
          split at h
          · rename_i hslash
            split at h
            · cases h
            · rename_i hread
              cases h
              exact .closing ⟨_, hspacing⟩ hslash ⟨_, hread⟩
          · rename_i hslash
            split at h
            · cases h
            · rename_i helement
              split at h
              · cases h
              · rename_i hread
                cases h
                exact .childElement ⟨_, hspacing⟩ (Bool.eq_false_iff.2 hslash) ⟨_, helement⟩
                  ⟨_, hread⟩
      · rename_i hangle
        split at h
        · cases h
        · rename_i hread
          cases h
          exact .childText (by simpa using hbrace) (by simpa using hangle) ⟨_, hread⟩

end Cases

end Reader

end RouteTable.Script
