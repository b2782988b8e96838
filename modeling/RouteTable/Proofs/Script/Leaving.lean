import RouteTable.Proofs.Script.Gap
import RouteTable.Proofs.Script.Reading
import RouteTable.Proofs.Script.Passage

/-!
Where the readers of a script leave off. Each passes the text in front of it character by character,
through all the readers that it calls, so that nothing is lost and nothing is read twice. One that
succeeds has come past the spacing in front of it, and a script between braces past its closing
brace.
-/

namespace RouteTable.Script

open Cursor

namespace Reader

def cursor : Reader → Cursor
  | .script _ _ _ cursor => cursor
  | .lexeme _ cursor => cursor
  | .template _ cursor => cursor
  | .element cursor => cursor
  | .attributes _ _ cursor => cursor
  | .attributeValue cursor => cursor
  | .children _ _ cursor => cursor

/-- Whether the cursors that a reader leaves are those that its own cursor leads to. -/
def PassesText (reader : Reader) : Prop :=
  ∀ after, reader.Leaves after → reader.cursor.LeadsTo after

end Reader

section Parts

variable {cursor after : Cursor}

theorem leads_of_spacing {freshLine : Bool} (h : Gives (spacing cursor) freshLine after) :
    ∃ gap, IsGap after.rest gap ∧ cursor.Leads gap after ∧ freshLine = gap.any isLineTerminator ∧
      after.rest.head?.any isSpacing = false := by
  obtain ⟨hle, h⟩ := h
  unfold spacing at h
  split at h
  · rename_i result hskip
    cases h
    obtain ⟨gap, hgap, hleads, hended, hbehind⟩ := leads_of_skipSpacing hskip
    exact ⟨gap, hgap, hleads, by simpa using hended, hbehind⟩
  · cases h

theorem leadsTo_of_spacing {freshLine : Bool} (h : Gives (spacing cursor) freshLine after) :
    cursor.LeadsTo after := by
  obtain ⟨gap, -, hleads, -⟩ := leads_of_spacing h
  exact ⟨gap, hleads⟩

theorem leadsTo_of_skipQuoted {quote : Char} {opened : Position}
    (h : Gives (skipQuoted quote opened cursor) () after) : cursor.LeadsTo after := by
  obtain ⟨hle, h⟩ := h
  unfold skipQuoted at h
  dsimp only at h
  split at h
  · cases h
  · cases h
    exact (leadsTo_skipWhile _ cursor).trans (leadsTo_next _)

theorem leadsTo_of_closingTag {name : String} (h : Gives (closingTag name cursor) () after) :
    cursor.LeadsTo after := by
  obtain ⟨freshLine, ended, start, last, hspacing, -, hbehind, -, rfl⟩ := gives_closingTag_iff.1 h
  have hname := (leadsTo_of_spacing hspacing).trans (leadsTo_skipWhile isTagNamePart start)
  exact (hname.trans (leadsTo_of_spacing hbehind)).trans (leadsTo_next last)

theorem leadsTo_of_namesAttribute (h : NamesAttribute cursor after) : cursor.LeadsTo after := by
  obtain ⟨freshLine, ended, p, c, s, hspacing, -, -, hnext⟩ := h
  have hname := (leadsTo_of_spacing hspacing).trans (leadsTo_skipWhile isTagNamePart ⟨p, c :: s⟩)
  exact hname.trans (leadsTo_of_spacing hnext)

end Parts

namespace Reader

theorem passesText_script {embedded : Bool} {before : List Token} {opened : List OpenBracket}
    {cursor : Cursor}
    (ih : ∀ called, Calls (.script embedded before opened cursor) called → called.PassesText) :
    PassesText (.script embedded before opened cursor) := by
  rintro after ⟨tokens, h⟩
  rcases tokensFrom_cases h with ⟨freshLine, start, hspacing, -, -, hend⟩ |
    ⟨token, behind, stillOpened, further, -, htoken, htrack, hfurther⟩
  · have hgap := leadsTo_of_spacing hspacing
    rcases hend with ⟨-, -, rfl⟩ | ⟨-, -, rfl⟩
    · exact hgap
    · exact hgap.trans (leadsTo_next start)
  · have hbehind := ih _ (.further htoken htrack) _ ⟨further, hfurther⟩
    obtain ⟨start, hlexeme, -, hlt, hread⟩ := htoken
    have hpassed := ih _ (.lexeme hlexeme) _ ⟨_, hlt, hread⟩
    exact ((leadsTo_of_spacing hlexeme.1).trans hpassed).trans hbehind

theorem passesText_lexeme {before : List Token} {cursor : Cursor}
    (ih : ∀ called, Calls (.lexeme before cursor) called → called.PassesText) :
    PassesText (.lexeme before cursor) := by
  rintro after ⟨⟨kind, value⟩, hlt, h⟩
  rcases readLexeme_cases h with ⟨p, s, rfl, -, hread⟩ | ⟨p, s, rfl, -, hawaits, hopens, hread⟩ |
    ⟨p, c, s, rfl, -, -, hread⟩
  · exact (leadsTo_next _).trans (ih _ .template _ hread)
  · exact (leadsTo_next _).trans (ih _ (.element hawaits hopens) _ hread)
  · obtain ⟨lexeme, hleads, -⟩ := (readsPlain_of_readPlain hread).spells
    exact ⟨lexeme, hleads⟩

/-- What is read part by part passes text if the readers of the parts do. -/
theorem leadsTo_of_reads {reader : Reader} {last : Cursor}
    (ih : ∀ called, Calls reader called → called.PassesText) (h : Reads reader last) :
    reader.cursor.LeadsTo last := by
  cases h with
  | templateEnd => exact leadsTo_next _
  | templateEscape hread => exact (leadsTo_advance 2 _).trans (ih _ .templateEscape _ hread)
  | templateText hend hescape hscript hread =>
    exact (leadsTo_next _).trans (ih _ (.templateText hend hescape hscript) _ hread)
  | templateScript hscript hread =>
    have hpassed := (leadsTo_advance 2 _).trans (ih _ .templateScript _ ⟨_, hscript⟩)
    exact hpassed.trans (ih _ (.templateAfter hscript) _ hread)
  | fragment hspacing hend hread =>
    have hgap := leadsTo_of_spacing hspacing
    exact (hgap.trans (leadsTo_next _)).trans (ih _ (.fragment hspacing hend) _ hread)
  | tagName hspacing hend hread =>
    have hgap := leadsTo_of_spacing hspacing
    exact (hgap.trans (leadsTo_skipWhile _ _)).trans (ih _ (.tagName hspacing hend) _ hread)
  | selfClosing hspacing hend =>
    exact ((leadsTo_of_spacing hspacing).trans (leadsTo_next _)).trans (leadsTo_next _)
  | tagEnd hspacing hread =>
    have hgap := leadsTo_of_spacing hspacing
    exact (hgap.trans (leadsTo_next _)).trans (ih _ (.tagEnd hspacing) _ hread)
  | attributeScript hspacing hscript hread =>
    have hgap := leadsTo_of_spacing hspacing
    have hpassed := (hgap.trans (leadsTo_next _)).trans
      (ih _ (.attributeScript hspacing) _ ⟨_, hscript⟩)
    exact hpassed.trans (ih _ (.attributeAfter hspacing hscript) _ hread)
  | bareName hname hvalue hread =>
    exact (leadsTo_of_namesAttribute hname).trans (ih _ (.bareName hname hvalue) _ hread)
  | value hname hvalue hassigned hgives hread =>
    have hassign := (leadsTo_next _).trans (leadsTo_of_spacing hassigned)
    have hbehind := hassign.trans (ih _ (.value hname hvalue hassigned) _ hgives)
    have hpassed := (leadsTo_of_namesAttribute hname).trans hbehind
    exact hpassed.trans (ih _ (.valueAfter hname hvalue hassigned hgives) _ hread)
  | quoted hquote hread => exact (leadsTo_next _).trans (leadsTo_of_skipQuoted hread)
  | valueScript hread => exact (leadsTo_next _).trans (ih _ .valueScript _ ⟨_, hread⟩)
  | valueElement hread => exact (leadsTo_next _).trans (ih _ .valueElement _ hread)
  | childScript hscript hread =>
    have hbehind := ih _ (.childScriptAfter hscript) _ hread
    exact (leadsTo_next _).trans ((ih _ .childScript _ ⟨_, hscript⟩).trans hbehind)
  | closing hspacing hslash hread =>
    have hgap := (leadsTo_next _).trans (leadsTo_of_spacing hspacing)
    exact (hgap.trans (leadsTo_next _)).trans (leadsTo_of_closingTag hread)
  | childElement hspacing hslash helement hread =>
    have hgap := (leadsTo_next _).trans (leadsTo_of_spacing hspacing)
    have hpassed := hgap.trans (ih _ (.childElement hspacing hslash) _ helement)
    exact hpassed.trans (ih _ (.childElementAfter hspacing hslash helement) _ hread)
  | childText hscript hopens hread =>
    exact (leadsTo_next _).trans (ih _ (.childText hscript hopens) _ hread)

/-- A reader passes text if the readers that it calls do. -/
theorem passesText_of_calls {reader : Reader}
    (ih : ∀ called, Calls reader called → called.PassesText) : reader.PassesText := by
  cases reader with
  | script => exact passesText_script ih
  | lexeme => exact passesText_lexeme ih
  | template => exact fun after h => leadsTo_of_reads ih (reads_template h)
  | element => exact fun after h => leadsTo_of_reads ih (reads_element h)
  | attributes => exact fun after h => leadsTo_of_reads ih (reads_attributes h)
  | attributeValue => exact fun after h => leadsTo_of_reads ih (reads_attributeValue h)
  | children => exact fun after h => leadsTo_of_reads ih (reads_children h)

/-- Every reader passes the text in front of it, up to the cursor that it leaves. -/
theorem passesText (reader : Reader) : reader.PassesText := by
  induction hweight : reader.weight using Nat.strongRecOn generalizing reader with
  | ind n ih =>
    apply passesText_of_calls
    intro called hcall
    have hlt := weight_lt_of_calls hcall
    rw [hweight] at hlt
    exact ih _ hlt called rfl

end Reader

/-- A script is read behind the spacing at its start. -/
theorem spacing_of_tokensFrom {embedded : Bool} {before tokens : List Token}
    {opened : List OpenBracket} {cursor last : Cursor}
    (h : Gives (tokensFrom embedded before opened cursor) tokens last) :
    ∃ freshLine start, Gives (spacing cursor) freshLine start ∧
      last.remaining ≤ start.remaining := by
  rcases tokensFrom_cases h with ⟨freshLine, start, hspacing, -, -, hend⟩ |
    ⟨token, after, stillOpened, further, -, ⟨start, hlexeme, -, hlt, -⟩, -, hfurther⟩
  · refine ⟨freshLine, start, hspacing, ?_⟩
    rcases hend with ⟨-, -, rfl⟩ | ⟨-, -, rfl⟩
    · exact Nat.le_refl _
    · rw [remaining_next]
      exact Nat.sub_le _ _
  · exact ⟨_, start, hlexeme.1, Nat.le_trans hfurther.1 (Nat.le_of_lt hlt)⟩

/-- The attributes of an element are read behind the spacing in front of them. -/
theorem spacing_of_readAttributes {opened : Position} {name : String} {cursor last : Cursor}
    (h : Gives (readAttributes opened name cursor) () last) :
    ∃ freshLine start, Gives (spacing cursor) freshLine start ∧
      last.remaining < start.remaining := by
  have hnext {p : Position} {c : Char} {s : List Char} :
      (Cursor.next ⟨p, c :: s⟩).remaining < (Cursor.mk p (c :: s)).remaining :=
    remaining_next_lt rfl
  cases Reader.reads_attributes h with
  | selfClosing hspacing hend =>
    exact ⟨_, _, hspacing, Nat.lt_trans (Reader.remaining_of_startsWith hend) hnext⟩
  | tagEnd hspacing hread => exact ⟨_, _, hspacing, Nat.lt_of_le_of_lt hread.1 hnext⟩
  | attributeScript hspacing hscript hread =>
    exact ⟨_, _, hspacing, Nat.lt_of_le_of_lt (Nat.le_trans hread.1 hscript.1) hnext⟩
  | bareName hname hvalue hread =>
    obtain ⟨_, start, hspacing, hnamed⟩ := Reader.spacing_of_namesAttribute hname
    exact ⟨_, start, hspacing, Nat.lt_of_le_of_lt hread.1 hnamed⟩
  | value hname hvalue hassigned hgives hread =>
    obtain ⟨_, start, hspacing, hnamed⟩ := Reader.spacing_of_namesAttribute hname
    have hnext := Nat.le_of_lt (Reader.remaining_of_startsWith hvalue)
    have hassign := Nat.le_trans hassigned.1 hnext
    have hbehind := Nat.le_trans (Nat.le_trans hread.1 hgives.1) hassign
    exact ⟨_, start, hspacing, Nat.lt_of_le_of_lt hbehind hnamed⟩

/-- What the reading of an element comes to: the children of a fragment, or the attributes behind
its name. -/
theorem readElement_cases {cursor last : Cursor} (h : Gives (readElement cursor) () last) :
    ∃ freshLine start, Gives (spacing cursor) freshLine start ∧
      (start.startsWith ['>'] = true ∧
          Gives (readChildren cursor.position "" start.next) () last ∨
        start.startsWith ['>'] = false ∧
          Gives (readAttributes cursor.position (String.ofList (start.takeWhile isTagNamePart))
            (start.skipWhile isTagNamePart)) () last) := by
  cases Reader.reads_element h with
  | fragment hspacing hend hread => exact ⟨_, _, hspacing, .inl ⟨hend, hread⟩⟩
  | tagName hspacing hend hread => exact ⟨_, _, hspacing, .inr ⟨hend, hread⟩⟩

/-- An element leaves less text than there is in front of it. -/
theorem remaining_readElement_lt {cursor last : Cursor} (h : Gives (readElement cursor) () last) :
    last.remaining < cursor.remaining := by
  cases Reader.reads_element h with
  | fragment hspacing hend hread =>
    have hnext := Reader.remaining_of_startsWith hend
    exact Nat.lt_of_le_of_lt hread.1 (Nat.lt_of_lt_of_le hnext hspacing.1)
  | tagName hspacing hend hread =>
    obtain ⟨_, behind, hbehind, hlt⟩ := spacing_of_readAttributes hread
    have hskip := Nat.le_trans hbehind.1 (remaining_skipWhile_le isTagNamePart _)
    exact Nat.lt_of_lt_of_le hlt (Nat.le_trans hskip hspacing.1)

theorem remaining_readAttributeValue_pos {cursor last : Cursor}
    (h : Gives (readAttributeValue cursor) () last) : 0 < cursor.remaining := by
  cases Reader.reads_attributeValue h <;> exact Nat.succ_pos _

/-- A script between braces ends with its closing brace. -/
theorem leads_of_embedded {before tokens : List Token} {opened : List OpenBracket}
    {cursor last : Cursor} (h : Gives (tokensFrom true before opened cursor) tokens last) :
    ∃ body, cursor.Leads (body ++ ['\x7d']) last := by
  rcases tokensFrom_cases h with ⟨freshLine, start, hspacing, -, -, hend⟩ |
    ⟨token, after, stillOpened, further, -, htoken, -, hfurther⟩
  · obtain ⟨gap, -, hgap, -⟩ := leads_of_spacing hspacing
    obtain ⟨p, rest⟩ := start
    rcases hend with ⟨hscript, -⟩ | ⟨-, hhead, rfl⟩
    · cases hscript
    · obtain ⟨s, rfl⟩ := List.head?_eq_some_iff.1 hhead
      exact ⟨gap, hgap.trans (.cons (.refl _))⟩
  · obtain ⟨start, hlexeme, -, hlt, hread⟩ := htoken
    have hle := hlexeme.1.1
    have hlt' : after.remaining < cursor.remaining := Nat.lt_of_lt_of_le hlt hle
    obtain ⟨body, hbody⟩ := leads_of_embedded hfurther
    obtain ⟨passed, hpassed⟩ := (leadsTo_of_spacing hlexeme.1).trans
      (Reader.passesText (.lexeme before start) after ⟨_, hlt, hread⟩)
    exact ⟨passed ++ body, by rw [List.append_assoc]; exact hpassed.trans hbody⟩
termination_by cursor.remaining
decreasing_by
  exact hlt'

end RouteTable.Script
