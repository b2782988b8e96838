import RouteTable.Proofs.Script.Turns
import RouteTable.Proofs.Script.Leaving

/-!
The loops of the readers that scripts stand in, each above the one that it was called from, and a
turn of the innermost of them. In a tag, a backslash is taken for the start of an attribute's name
but for no part of it, so that a turn that comes to one passes nothing and goes round again.
Everywhere else a turn passes text, or ends the reading with what the readers give.
-/

namespace RouteTable.Script

open Iteration

/-- The loops that are under way: that of a whole text's script, and in it those of the scripts
between braces, of templates, and of the tags and the children of elements. -/
inductive Loops where
  | text (before : List Token) (opened : List OpenBracket)
  | script (before : List Token) (opened : List OpenBracket) (caller : Loops)
  | template (opened : Position) (caller : Loops)
  | tag (opened : Position) (name : String) (caller : Loops)
  | children (opened : Position) (name : String) (caller : Loops)

namespace Loops

/-- The loop of a script, of a whole text if nothing has called it. -/
def scriptOf (caller : Option Loops) (before : List Token) (opened : List OpenBracket) : Loops :=
  match caller with
  | none => .text before opened
  | some caller => .script before opened caller

def enter (caller : Loops) : Loops :=
  .script [] [] caller

end Loops

structure State where
  loops : Loops
  cursor : Cursor

namespace State

abbrev Turn := Iteration State (Except LexicalError (List Token))

def enterElement (caller : Loops) (cursor : Cursor) : Turn :=
  match spacing cursor with
  | .error e => .ends (.error e)
  | .ok ⟨(_, start), _⟩ =>
    if start.startsWith ['>'] then .again ⟨.children cursor.position "" caller, start.next⟩
    else .again ⟨.tag cursor.position (String.ofList (start.takeWhile isTagNamePart)) caller,
      start.skipWhile isTagNamePart⟩

/-- Passes the lexeme that starts with the character `c`, or enters it if a script may stand in it.
-/
def passLexeme (caller : Option Loops) (before : List Token) (opened : List OpenBracket)
    (freshLine : Bool) (start : Cursor) (c : Char) : Turn :=
  let holder (kind : TokenClass) : Loops :=
    .scriptOf caller (⟨kind, "", start.position, freshLine⟩ :: before) opened
  if c == '\x60' then .again ⟨.template start.position (holder .template), start.next⟩
  else if c == '<' && awaitsOperand before && opensElement start.rest then
    enterElement (holder .element) start.next
  else
    match readPlain before start with
    | .error e => .ends (.error e)
    | .ok ⟨((kind, value), after), _⟩ =>
      let token : Token := ⟨kind, value, start.position, freshLine⟩
      match trackBrackets opened token with
      | .error e => .ends (.error e)
      | .ok stillOpened => .again ⟨.scriptOf caller (token :: before) stillOpened, after⟩

def turnScript (caller : Option Loops) (before : List Token) (opened : List OpenBracket)
    (cursor : Cursor) : Turn :=
  match spacing cursor with
  | .error e => .ends (.error e)
  | .ok ⟨(freshLine, start), _⟩ =>
    match start.rest with
    | [] =>
      match opened, caller with
      | bracket :: _, _ => .ends (.error ⟨bracket.position, .unclosed bracket.opener⟩)
      | [], some _ => .ends (.error ⟨start.position, .unterminatedExpression⟩)
      | [], none => .ends (.ok before.reverse)
    | c :: _ =>
      match caller, opened.isEmpty && c == '\x7d' with
      | some outer, true => .again ⟨outer, start.next⟩
      | _, _ => passLexeme caller before opened freshLine start c

def turnTemplate (opened : Position) (caller : Loops) (cursor : Cursor) : Turn :=
  match cursor.rest with
  | [] => .ends (.error ⟨opened, .unterminatedTemplate⟩)
  | c :: s =>
    if c == '\x60' then .again ⟨caller, cursor.next⟩
    else if c == '\\' then
      if s.isEmpty then .ends (.error ⟨opened, .unterminatedTemplate⟩)
      else .again ⟨.template opened caller, cursor.advance 2⟩
    else if c == '$' && s.head? == some '\x7b' then
      .again ⟨.enter (.template opened caller), cursor.advance 2⟩
    else .again ⟨.template opened caller, cursor.next⟩

def enterValue (caller : Loops) (cursor : Cursor) : Turn :=
  match cursor.rest with
  | [] => .ends (.error ⟨cursor.position, .expectedAttributeValue⟩)
  | c :: _ =>
    if c == '"' || c == '\'' then
      match skipQuoted c cursor.position cursor.next with
      | .error e => .ends (.error e)
      | .ok ⟨(_, after), _⟩ => .again ⟨caller, after⟩
    else if c == '\x7b' then .again ⟨.enter caller, cursor.next⟩
    else if c == '<' then enterElement caller cursor.next
    else .ends (.error ⟨cursor.position, .expectedAttributeValue⟩)

def passAttribute (caller : Loops) (start : Cursor) : Turn :=
  match spacing (start.skipWhile isTagNamePart) with
  | .error e => .ends (.error e)
  | .ok ⟨(_, named), _⟩ =>
    if named.startsWith ['='] then
      match spacing named.next with
      | .error e => .ends (.error e)
      | .ok ⟨(_, assigned), _⟩ => enterValue caller assigned
    else .again ⟨caller, named⟩

def turnTag (opened : Position) (name : String) (caller : Loops) (cursor : Cursor) : Turn :=
  match spacing cursor with
  | .error e => .ends (.error e)
  | .ok ⟨(_, start), _⟩ =>
    match start.rest with
    | [] => .ends (.error ⟨opened, .unterminatedElement⟩)
    | c :: _ =>
      if c == '/' then
        if start.next.startsWith ['>'] then .again ⟨caller, start.next.next⟩
        else .ends (.error ⟨start.next.next.position, .expectedSelfClosingEnd⟩)
      else if c == '>' then .again ⟨.children opened name caller, start.next⟩
      else if c == '\x7b' then .again ⟨.enter (.tag opened name caller), start.next⟩
      else if isNameStart c then passAttribute (.tag opened name caller) start
      else .ends (.error ⟨start.position, .unexpectedInTag c⟩)

def turnChildren (opened : Position) (name : String) (caller : Loops) (cursor : Cursor) : Turn :=
  match cursor.rest with
  | [] => .ends (.error ⟨opened,
      if name.isEmpty then .unterminatedFragment else .unterminatedChildren name⟩)
  | c :: _ =>
    if c == '\x7b' then .again ⟨.enter (.children opened name caller), cursor.next⟩
    else if c == '<' then
      match spacing cursor.next with
      | .error e => .ends (.error e)
      | .ok ⟨(_, start), _⟩ =>
        if start.startsWith ['/'] then
          match closingTag name start.next with
          | .error e => .ends (.error e)
          | .ok ⟨(_, after), _⟩ => .again ⟨caller, after⟩
        else enterElement (.children opened name caller) start
    else .again ⟨.children opened name caller, cursor.next⟩

def turn : State → Turn
  | ⟨.text before opened, cursor⟩ => turnScript none before opened cursor
  | ⟨.script before opened caller, cursor⟩ => turnScript (some caller) before opened cursor
  | ⟨.template opened caller, cursor⟩ => turnTemplate opened caller cursor
  | ⟨.tag opened name caller, cursor⟩ => turnTag opened name caller cursor
  | ⟨.children opened name caller, cursor⟩ => turnChildren opened name caller cursor

def start (source : String) : State :=
  ⟨.text [] [], skipInterpreterLine (.start source)⟩

def unread (state : State) : Nat :=
  state.cursor.remaining

/-- Whether the loop of a tag stands in front of a backslash, once spacing is passed. -/
def Stalls : State → Prop
  | ⟨.tag _ _ _, cursor⟩ => ∃ ended next, Gives (spacing cursor) ended next ∧
      next.rest.head? = some '\\'
  | _ => False

end State

section Progress

variable {origin cursor middle after : Cursor} {c : Char} {s : List Char}

/-- Whether passing some text, a character at least, leads from a cursor to another one. -/
structure Cursor.Passes (cursor after : Cursor) : Prop where
  leads : cursor.LeadsTo after
  lt : after.remaining < cursor.remaining

theorem Cursor.LeadsTo.remaining_le (h : cursor.LeadsTo after) :
    after.remaining ≤ cursor.remaining := by
  obtain ⟨passed, h⟩ := h
  rw [Cursor.remaining, Cursor.remaining, h.rest, List.length_append]
  exact Nat.le_add_left _ _

theorem Cursor.Passes.trans (h : cursor.Passes middle) (h' : middle.LeadsTo after) :
    cursor.Passes after where
  leads := h.leads.trans h'
  lt := Nat.lt_of_le_of_lt h'.remaining_le h.lt

theorem Cursor.LeadsTo.passes (h : cursor.LeadsTo middle) (h' : middle.Passes after) :
    cursor.Passes after where
  leads := h.trans h'.leads
  lt := Nat.lt_of_lt_of_le h'.lt h.remaining_le

theorem passes_next (hs : cursor.rest = c :: s) : cursor.Passes cursor.next where
  leads := Cursor.leadsTo_next cursor
  lt := Cursor.remaining_next_lt hs

theorem passes_readPlain {before : List Token} {result : TokenClass × String}
    {hlt : after.remaining < cursor.remaining}
    (h : readPlain before cursor = .ok ⟨(result, after), hlt⟩) : cursor.Passes after where
  leads := by
    obtain ⟨lexeme, hleads, -⟩ := (readsPlain_of_readPlain h).spells
    exact ⟨lexeme, hleads⟩
  lt := hlt

namespace State

theorem passes_enterElement (h : origin.Passes cursor) (caller : Loops) :
    (enterElement caller cursor).Leads (origin.Passes ·.cursor) := by
  rw [enterElement]
  cases hspacing : spacing cursor with
  | error e => trivial
  | ok result =>
    obtain ⟨⟨ended, start⟩, hle⟩ := result
    have hstart := leadsTo_of_spacing ⟨hle, hspacing⟩
    dsimp only
    split
    · exact h.trans (hstart.trans (Cursor.leadsTo_next start))
    · exact h.trans (hstart.trans (Cursor.leadsTo_skipWhile _ start))

theorem passes_passLexeme (h : origin.LeadsTo cursor) (hs : cursor.rest = c :: s)
    (caller : Option Loops) (before : List Token) (opened : List OpenBracket) (freshLine : Bool) :
    (passLexeme caller before opened freshLine cursor c).Leads (origin.Passes ·.cursor) := by
  have hnext := h.passes (passes_next hs)
  rw [passLexeme]
  dsimp only
  split
  · exact hnext
  split
  · exact passes_enterElement hnext _
  cases hplain : readPlain before cursor with
  | error e => trivial
  | ok result =>
    obtain ⟨⟨⟨kind, value⟩, after⟩, hlt⟩ := result
    have hafter := h.passes (passes_readPlain hplain)
    dsimp only
    split
    · trivial
    · exact hafter

theorem passes_turnScript (caller : Option Loops) (before : List Token)
    (opened : List OpenBracket) (cursor : Cursor) :
    (turnScript caller before opened cursor).Leads (cursor.Passes ·.cursor) := by
  rw [turnScript]
  cases hspacing : spacing cursor with
  | error e => trivial
  | ok result =>
    obtain ⟨⟨freshLine, start⟩, hle⟩ := result
    have hstart := leadsTo_of_spacing ⟨hle, hspacing⟩
    dsimp only
    split
    · split <;> trivial
    · rename_i c s hs
      split
      · exact hstart.passes (passes_next hs)
      · exact passes_passLexeme hstart hs _ before opened freshLine

theorem passes_turnTemplate (opened : Position) (caller : Loops) (cursor : Cursor) :
    (turnTemplate opened caller cursor).Leads (cursor.Passes ·.cursor) := by
  have htwo : ∀ {c s}, cursor.rest = c :: s → cursor.Passes (cursor.advance 2) := fun hs =>
    (passes_next hs).trans (Cursor.leadsTo_next cursor.next)
  rw [turnTemplate]
  split
  · trivial
  rename_i c s hs
  split
  · exact passes_next hs
  split
  · split
    · trivial
    · exact htwo hs
  split
  · exact htwo hs
  · exact passes_next hs

theorem passes_enterValue (h : origin.Passes cursor) (caller : Loops) :
    (enterValue caller cursor).Leads (origin.Passes ·.cursor) := by
  have hnext := h.trans (Cursor.leadsTo_next cursor)
  rw [enterValue]
  split
  · trivial
  rename_i c s hs
  split
  · cases hquoted : skipQuoted c cursor.position cursor.next with
    | error e => trivial
    | ok result =>
      obtain ⟨⟨⟨⟩, after⟩, hle⟩ := result
      exact hnext.trans (leadsTo_of_skipQuoted ⟨hle, hquoted⟩)
  split
  · exact hnext
  split
  · exact passes_enterElement hnext caller
  · trivial

/-- The name of an attribute starts with a character that may stand in it, unless that is a
backslash. -/
theorem passes_passAttribute (h : origin.LeadsTo cursor) (hs : cursor.rest = c :: s)
    (hc : isTagNamePart c = true) (caller : Loops) :
    (passAttribute caller cursor).Leads (origin.Passes ·.cursor) := by
  have hname : origin.Passes (cursor.skipWhile isTagNamePart) :=
    h.passes ⟨Cursor.leadsTo_skipWhile _ cursor, Cursor.remaining_skipWhile_lt hs hc⟩
  rw [passAttribute]
  cases hspacing : spacing (cursor.skipWhile isTagNamePart) with
  | error e => trivial
  | ok result =>
    obtain ⟨⟨ended, named⟩, hle⟩ := result
    have hnamed := hname.trans (leadsTo_of_spacing ⟨hle, hspacing⟩)
    dsimp only
    split
    · cases hassigned : spacing named.next with
      | error e => trivial
      | ok result =>
        obtain ⟨⟨ended', assigned⟩, hle'⟩ := result
        have hvalue := (Cursor.leadsTo_next named).trans (leadsTo_of_spacing ⟨hle', hassigned⟩)
        exact passes_enterValue (hnamed.trans hvalue) caller
    · exact hnamed

theorem passes_turnTag (opened : Position) (name : String) (caller : Loops)
    (hstalls : ¬ Stalls ⟨.tag opened name caller, cursor⟩) :
    (turnTag opened name caller cursor).Leads (cursor.Passes ·.cursor) := by
  rw [turnTag]
  cases hspacing : spacing cursor with
  | error e => trivial
  | ok result =>
    obtain ⟨⟨ended, start⟩, hle⟩ := result
    have hstart := leadsTo_of_spacing ⟨hle, hspacing⟩
    dsimp only
    split
    · trivial
    rename_i c s hs
    have hnext := hstart.passes (passes_next hs)
    split
    · split
      · exact hnext.trans (Cursor.leadsTo_next start.next)
      · trivial
    split
    · exact hnext
    split
    · exact hnext
    split
    · rename_i hname
      have hc : c ≠ '\\' := by
        rintro rfl
        exact hstalls ⟨ended, start, ⟨hle, hspacing⟩, congrArg List.head? hs⟩
      exact passes_passAttribute hstart hs (isTagNamePart_of_isNameStart hname hc) _
    · trivial

theorem passes_turnChildren (opened : Position) (name : String) (caller : Loops)
    (cursor : Cursor) :
    (turnChildren opened name caller cursor).Leads (cursor.Passes ·.cursor) := by
  rw [turnChildren]
  split
  · trivial
  rename_i c s hs
  have hnext := passes_next hs
  split
  · exact hnext
  split
  · cases hspacing : spacing cursor.next with
    | error e => trivial
    | ok result =>
      obtain ⟨⟨ended, start⟩, hle⟩ := result
      have hstart := hnext.trans (leadsTo_of_spacing ⟨hle, hspacing⟩)
      dsimp only
      split
      · cases hclosing : closingTag name start.next with
        | error e => trivial
        | ok result =>
          obtain ⟨⟨⟨⟩, after⟩, hle'⟩ := result
          have hafter := leadsTo_of_closingTag ⟨hle', hclosing⟩
          exact hstart.trans ((Cursor.leadsTo_next start).trans hafter)
      · exact passes_enterElement hstart _
  · exact hnext

/-- A turn passes some text, unless the loop of a tag stands in front of a backslash. -/
theorem passes_turn {state : State} (h : ¬ state.Stalls) :
    (turn state).Leads (state.cursor.Passes ·.cursor) := by
  obtain ⟨loops, cursor⟩ := state
  cases loops with
  | text before opened => exact passes_turnScript none before opened cursor
  | script before opened caller => exact passes_turnScript (some caller) before opened cursor
  | template opened caller => exact passes_turnTemplate opened caller cursor
  | tag opened name caller => exact passes_turnTag opened name caller h
  | children opened name caller => exact passes_turnChildren opened name caller cursor

end State

end Progress

end RouteTable.Script
