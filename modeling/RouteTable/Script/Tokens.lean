import RouteTable.Script.Spacing
import RouteTable.Script.Lexeme

/-!
The tokens of a script. Templates, regular expressions and elements become one opaque token each,
whatever they hold; the scripts embedded in templates and elements are read as tokens too, so that
their brackets count. Every reader leaves less text than it was given, which is why reading ends.
-/

namespace RouteTable.Script

/-- Words after which an expression may start. -/
def expressionKeywords : List String :=
  ["return", "typeof", "instanceof", "in", "of", "new", "delete", "void", "throw", "case", "do",
   "else", "yield", "await", "extends", "default"]

/-- Whether an expression may start after the tokens `before`, the latest of them first. After a
point, a keyword is the name of a property. -/
def awaitsOperand (before : List Token) : Bool :=
  match before with
  | [] => true
  | token :: earlier =>
    match token.kind with
    | .punctuator => !([")", "]", "\x7d", "++", "--"].contains token.value)
    | .name => !(earlier.head?.any Token.isAccess) && expressionKeywords.contains token.value
    | _ => false

/-- Whether the `<` that a text starts with opens an element. It does not before `,` or `extends`
after a name, which make it a list of type parameters. -/
def opensElement (text : List Char) : Bool :=
  match text.tail.dropWhile Text.isBlank with
  | [] => false
  | c :: s =>
    c == '>' || isNameStart c &&
      let after := ((c :: s).dropWhile isTagNamePart).dropWhile Text.isBlank
      !(after.head? == some ',' || "extends ".toList.isPrefixOf after)

structure OpenBracket where
  opener : Char
  position : Position
deriving DecidableEq

def openerOf (closer : String) : Char :=
  if closer == ")" then '(' else if closer == "]" then '[' else '{'

/-- The brackets that are open after a token, the innermost first. -/
def trackBrackets (opened : List OpenBracket) (token : Token) :
    Except LexicalError (List OpenBracket) :=
  let text := token.value.toList.headD ' '
  if token.isOpener then
    .ok (⟨text, token.position⟩ :: opened)
  else if token.isCloser then
    match opened with
    | [] => .error ⟨token.position, .unopened text⟩
    | innermost :: outer =>
      if innermost.opener == openerOf token.value then .ok outer
      else .error ⟨token.position, .mismatched text innermost.opener innermost.position⟩
  else
    .ok opened

/-- Passes the quoted value of an attribute that was opened at `opened`, up to and over the closing
quote. It has no escapes and may hold line ends. -/
def skipQuoted (quote : Char) (opened : Position) (cursor : Cursor) :
    Except LexicalError (Within cursor Unit) :=
  let body := cursor.skipWhile (· != quote)
  if body.rest.isEmpty then .error ⟨opened, .unterminatedAttribute⟩
  else .ok ⟨((), body.next), by
    have h : body.remaining ≤ cursor.remaining := Cursor.remaining_skipWhile_le _ _
    rw [Cursor.remaining_next]
    omega⟩

def closingTag (name : String) (cursor : Cursor) : Except LexicalError (Within cursor Unit) :=
  match spacing cursor with
  | .error e => .error e
  | .ok ⟨(_, start), hstart⟩ =>
    let closing := String.ofList (start.takeWhile isTagNamePart)
    match spacing (start.skipWhile isTagNamePart) with
    | .error e => .error e
    | .ok ⟨(_, last), hlast⟩ =>
      if last.startsWith ['>'] then
        if closing == name then .ok ⟨((), last.next), by
          have h := Cursor.remaining_skipWhile_le isTagNamePart start
          rw [Cursor.remaining_next]
          simp only at hstart hlast
          omega⟩
        else .error ⟨last.next.position, .closingTagMismatch closing name⟩
      else .error ⟨last.next.position, .expectedClosingTagEnd⟩

/-- A token's kind and value, with the cursor after it. -/
abbrev Read (cursor : Cursor) : Type :=
  { result : (TokenClass × String) × Cursor // result.2.remaining < cursor.remaining }

/-- Reads a token that holds no other tokens. -/
def readPlain (before : List Token) (cursor : Cursor) : Except LexicalError (Read cursor) :=
  match hs : cursor.rest with
  | [] => .error ⟨cursor.position, .unexpectedEnd⟩
  | c :: s =>
    if hc : isNameStart c then
      match hr : readName cursor with
      | .error e => .error e
      | .ok (name, after) =>
        .ok ⟨((.name, String.ofList name), after), remaining_readName_lt hs hc hr⟩
    else if c == '#' && s.head?.any isNameStart then
      match hr : readName cursor.next with
      | .error e => .error e
      | .ok (name, after) =>
        .ok ⟨((.privateName, String.ofList name), after),
          Nat.lt_of_le_of_lt (remaining_readName_le hr) (Cursor.remaining_next_lt hs)⟩
    else if startsNumber (c :: s) then
      let text := numberText (c :: s)
      .ok ⟨((.number, String.ofList text), cursor.advance text.length), by
        rw [Cursor.remaining_advance]
        simp only [Cursor.remaining, hs, text, numberText, List.length_cons]
        omega⟩
    else if c == '"' || c == '\'' then
      match hr : readStringLiteral c cursor.position cursor.next with
      | .error e => .error e
      | .ok (value, after) =>
        .ok ⟨((.string, String.ofList value), after),
          Nat.lt_of_le_of_lt (remaining_readStringLiteral_le hr) (Cursor.remaining_next_lt hs)⟩
    else if c == '/' && awaitsOperand before then
      match hr : readRegularExpression cursor with
      | .error e => .error e
      | .ok after => .ok ⟨((.regex, ""), after), remaining_readRegularExpression_lt hs hr⟩
    else
      match hp : punctuator? (c :: s) with
      | some text =>
        .ok ⟨((.punctuator, String.ofList text), cursor.advance text.length), by
          have h := punctuator?_pos hp
          rw [Cursor.remaining_advance]
          simp only [Cursor.remaining, hs]
          omega⟩
      | none => .error ⟨cursor.position, .unexpectedCharacter c⟩

mutual

/-- The tokens from a cursor on, up to the end of the text or, in a script embedded between
braces, up to and over the closing brace. `before` are the tokens already read, the latest first,
and `opened` the brackets still open, the innermost first. -/
def tokensFrom (embedded : Bool) (before : List Token) (opened : List OpenBracket)
    (cursor : Cursor) : Except LexicalError (Within cursor (List Token)) :=
  match spacing cursor with
  | .error e => .error e
  | .ok ⟨(lineEnded, start), hstart⟩ =>
    match hs : start.rest with
    | [] =>
      match opened with
      | bracket :: _ => .error ⟨bracket.position, .unclosed bracket.opener⟩
      | [] =>
        if embedded then .error ⟨start.position, .unterminatedExpression⟩
        else .ok ⟨([], start), hstart⟩
    | c :: _ =>
      if embedded && opened.isEmpty && c == '}' then
        .ok ⟨([], start.next), Nat.le_trans (Nat.le_of_lt (Cursor.remaining_next_lt hs)) hstart⟩
      else
        match readLexeme before start with
        | .error e => .error e
        | .ok ⟨((kind, value), after), hafter⟩ =>
          let token : Token := ⟨kind, value, start.position, lineEnded⟩
          match trackBrackets opened token with
          | .error e => .error e
          | .ok stillOpened =>
            match tokensFrom embedded (token :: before) stillOpened after with
            | .error e => .error e
            | .ok ⟨(tokens, last), hlast⟩ =>
              .ok ⟨(token :: tokens, last),
                Nat.le_trans hlast (Nat.le_trans (Nat.le_of_lt hafter) hstart)⟩
termination_by (cursor.remaining, 1)
decreasing_by
  · simp only at hstart
    rcases Nat.lt_or_eq_of_le hstart with h | h
    · exact Prod.Lex.left _ _ h
    · rw [h]
      exact Prod.Lex.right _ (by decide)
  · exact Prod.Lex.left _ _ (Nat.lt_of_lt_of_le hafter hstart)

def readLexeme (before : List Token) (cursor : Cursor) : Except LexicalError (Read cursor) :=
  match hs : cursor.rest with
  | [] => readPlain before cursor
  | c :: s =>
    if c == '\x60' then
      match readTemplateLiteral cursor.position cursor.next with
      | .error e => .error e
      | .ok ⟨(_, after), hafter⟩ =>
        .ok ⟨((.template, ""), after), Nat.lt_of_le_of_lt hafter (Cursor.remaining_next_lt hs)⟩
    else if c == '<' && awaitsOperand before && opensElement (c :: s) then
      match readElement cursor.next with
      | .error e => .error e
      | .ok ⟨(_, after), hafter⟩ =>
        .ok ⟨((.element, ""), after), Nat.lt_of_le_of_lt hafter (Cursor.remaining_next_lt hs)⟩
    else
      readPlain before cursor
termination_by (cursor.remaining, 0)
decreasing_by
  all_goals exact Prod.Lex.left _ _ (Cursor.remaining_next_lt hs)

/-- Reads the rest of a template that was opened at `opened`, up to and over its end. -/
def readTemplateLiteral (opened : Position) (cursor : Cursor) :
    Except LexicalError (Within cursor Unit) :=
  match hs : cursor.rest with
  | [] => .error ⟨opened, .unterminatedTemplate⟩
  | c :: s =>
    have hnext := Cursor.remaining_next_lt hs
    if c == '\x60' then
      .ok ⟨((), cursor.next), Nat.le_of_lt hnext⟩
    else if c == '\\' then
      if s.isEmpty then .error ⟨opened, .unterminatedTemplate⟩
      else
        match readTemplateLiteral opened (cursor.advance 2) with
        | .error e => .error e
        | .ok ⟨result, h⟩ => .ok ⟨result, by rw [Cursor.remaining_advance] at h; omega⟩
    else if c == '$' && s.head? == some '{' then
      match tokensFrom true [] [] (cursor.advance 2) with
      | .error e => .error e
      | .ok ⟨(_, after), hafter⟩ =>
        match readTemplateLiteral opened after with
        | .error e => .error e
        | .ok ⟨result, h⟩ => .ok ⟨result, by
            simp only [Cursor.remaining_advance] at hafter
            omega⟩
    else
      match readTemplateLiteral opened cursor.next with
      | .error e => .error e
      | .ok ⟨result, h⟩ => .ok ⟨result, by omega⟩
termination_by (cursor.remaining, 0)
decreasing_by
  · exact Prod.Lex.left _ _ (by rw [Cursor.remaining_advance]; omega)
  · exact Prod.Lex.left _ _ (by rw [Cursor.remaining_advance]; omega)
  · exact Prod.Lex.left _ _ (by simp only [Cursor.remaining_advance] at hafter; omega)
  · exact Prod.Lex.left _ _ hnext

/-- Reads an element or a fragment after its `<`. -/
def readElement (cursor : Cursor) : Except LexicalError (Within cursor Unit) :=
  match spacing cursor with
  | .error e => .error e
  | .ok ⟨(_, start), hstart⟩ =>
    if hs : start.startsWith ['>'] then
      match readChildren cursor.position "" start.next with
      | .error e => .error e
      | .ok ⟨result, h⟩ => .ok ⟨result, by
          rw [Cursor.remaining_next] at h
          simp only at hstart
          omega⟩
    else
      let name := String.ofList (start.takeWhile isTagNamePart)
      match readAttributes cursor.position name (start.skipWhile isTagNamePart) with
      | .error e => .error e
      | .ok ⟨result, h⟩ => .ok ⟨result,
          Nat.le_trans h (Nat.le_trans (Cursor.remaining_skipWhile_le _ _) hstart)⟩
termination_by (cursor.remaining, 2)
decreasing_by
  · refine Prod.Lex.left _ _ (Nat.lt_of_lt_of_le ?_ hstart)
    rcases start with ⟨p, _ | ⟨c, s⟩⟩
    · simp [Cursor.startsWith] at hs
    · exact Cursor.remaining_next_lt rfl
  · rcases Nat.lt_or_eq_of_le
      (Nat.le_trans (Cursor.remaining_skipWhile_le isTagNamePart start) hstart) with h | h
    · exact Prod.Lex.left _ _ h
    · rw [h]
      exact Prod.Lex.right _ (by decide)

/-- Reads the attributes of an element and what follows them: the children of the element `name`
that was opened at `opened`, or its end. -/
def readAttributes (opened : Position) (name : String) (cursor : Cursor) :
    Except LexicalError (Within cursor Unit) :=
  match spacing cursor with
  | .error e => .error e
  | .ok ⟨(_, start), hstart⟩ =>
    match hs : start.rest with
    | [] => .error ⟨opened, .unterminatedElement⟩
    | c :: s =>
      have hnext : start.next.remaining < cursor.remaining :=
        Nat.lt_of_lt_of_le (Cursor.remaining_next_lt hs) hstart
      if c == '/' then
        let after := start.next
        if after.startsWith ['>'] then
          .ok ⟨((), after.next), by
            have h : after.remaining < cursor.remaining := hnext
            rw [Cursor.remaining_next]
            omega⟩
        else .error ⟨after.next.position, .expectedSelfClosingEnd⟩
      else if c == '>' then
        match readChildren opened name start.next with
        | .error e => .error e
        | .ok ⟨result, h⟩ => .ok ⟨result, by omega⟩
      else if c == '{' then
        match tokensFrom true [] [] start.next with
        | .error e => .error e
        | .ok ⟨(_, after), hafter⟩ =>
          match readAttributes opened name after with
          | .error e => .error e
          | .ok ⟨result, h⟩ => .ok ⟨result, by simp only at hafter; omega⟩
      else if hb : c = '\\' then
        .error ⟨start.position, .stalledTag⟩
      else if hc : isNameStart c then
        match spacing (start.skipWhile isTagNamePart) with
        | .error e => .error e
        | .ok ⟨(_, named), hnamed⟩ =>
          have hlt : named.remaining < cursor.remaining :=
            Nat.lt_of_le_of_lt hnamed (Nat.lt_of_lt_of_le
              (Cursor.remaining_skipWhile_lt hs
                (isTagNamePart_of_isNameStart hc hb)) hstart)
          if named.startsWith ['='] then
            match spacing named.next with
            | .error e => .error e
            | .ok ⟨(_, assigned), hassigned⟩ =>
              have hle : assigned.remaining < cursor.remaining := by
                rw [Cursor.remaining_next] at hassigned
                simp only at hassigned
                omega
              match readAttributeValue assigned with
              | .error e => .error e
              | .ok ⟨(_, after), hafter⟩ =>
                match readAttributes opened name after with
                | .error e => .error e
                | .ok ⟨result, h⟩ => .ok ⟨result, by simp only at hafter; omega⟩
          else
            match readAttributes opened name named with
            | .error e => .error e
            | .ok ⟨result, h⟩ => .ok ⟨result, by omega⟩
      else
        .error ⟨start.position, .unexpectedInTag c⟩
termination_by (cursor.remaining, 1)
decreasing_by
  · exact Prod.Lex.left _ _ hnext
  · exact Prod.Lex.left _ _ hnext
  · exact Prod.Lex.left _ _ (by simp only at hafter; omega)
  · exact Prod.Lex.left _ _ hle
  · exact Prod.Lex.left _ _ (by simp only at hafter; omega)
  · exact Prod.Lex.left _ _ hlt

/-- Reads the value of an attribute: quoted text, a script between braces, or an element. -/
def readAttributeValue (cursor : Cursor) : Except LexicalError (Within cursor Unit) :=
  match hs : cursor.rest with
  | [] => .error ⟨cursor.position, .expectedAttributeValue⟩
  | c :: _ =>
    have hnext := Cursor.remaining_next_lt hs
    if c == '"' || c == '\'' then
      match skipQuoted c cursor.position cursor.next with
      | .error e => .error e
      | .ok ⟨result, h⟩ => .ok ⟨result, by omega⟩
    else if c == '{' then
      match tokensFrom true [] [] cursor.next with
      | .error e => .error e
      | .ok ⟨(_, after), h⟩ => .ok ⟨((), after), by simp only at h ⊢; omega⟩
    else if c == '<' then
      match readElement cursor.next with
      | .error e => .error e
      | .ok ⟨result, h⟩ => .ok ⟨result, by omega⟩
    else
      .error ⟨cursor.position, .expectedAttributeValue⟩
termination_by (cursor.remaining, 0)
decreasing_by
  all_goals exact Prod.Lex.left _ _ hnext

/-- Reads the children of the element `name` that was opened at `opened`, and its closing tag. The
empty name is that of a fragment. -/
def readChildren (opened : Position) (name : String) (cursor : Cursor) :
    Except LexicalError (Within cursor Unit) :=
  match hs : cursor.rest with
  | [] =>
    .error ⟨opened, if name.isEmpty then .unterminatedFragment else .unterminatedChildren name⟩
  | c :: _ =>
    have hnext := Cursor.remaining_next_lt hs
    if c == '{' then
      match tokensFrom true [] [] cursor.next with
      | .error e => .error e
      | .ok ⟨(_, after), hafter⟩ =>
        match readChildren opened name after with
        | .error e => .error e
        | .ok ⟨result, h⟩ => .ok ⟨result, by simp only at hafter; omega⟩
    else if c == '<' then
      match spacing cursor.next with
      | .error e => .error e
      | .ok ⟨(_, start), hstart⟩ =>
        have hlt : start.remaining < cursor.remaining := Nat.lt_of_le_of_lt hstart hnext
        if start.startsWith ['/'] then
          match closingTag name start.next with
          | .error e => .error e
          | .ok ⟨result, h⟩ => .ok ⟨result, by rw [Cursor.remaining_next] at h; omega⟩
        else
          match readElement start with
          | .error e => .error e
          | .ok ⟨(_, after), hafter⟩ =>
            match readChildren opened name after with
            | .error e => .error e
            | .ok ⟨result, h⟩ => .ok ⟨result, by simp only at hafter; omega⟩
    else
      match readChildren opened name cursor.next with
      | .error e => .error e
      | .ok ⟨result, h⟩ => .ok ⟨result, by omega⟩
termination_by (cursor.remaining, 0)
decreasing_by
  · exact Prod.Lex.left _ _ hnext
  · exact Prod.Lex.left _ _ (by simp only at hafter; omega)
  · exact Prod.Lex.left _ _ hlt
  · exact Prod.Lex.left _ _ (by simp only at hafter; omega)
  · exact Prod.Lex.left _ _ hnext

end

def readTokens (source : String) : Except LexicalError (List Token) :=
  match tokensFrom false [] [] (skipInterpreterLine (.start source)) with
  | .ok ⟨(tokens, _), _⟩ => .ok tokens
  | .error e => .error e

end RouteTable.Script
