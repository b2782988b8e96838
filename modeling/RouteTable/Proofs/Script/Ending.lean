import RouteTable.Proofs.Script.Loops
import RouteTable.Proofs.Script.Sole

/-!
How the reading of a script ends. What the readers give is left as it is by each turn of the loops
that they run, so that it is the result that the loops end with, if they end. They do unless they
come to a backslash in a tag, in front of which a turn changes nothing.
-/

namespace RouteTable.Script

open Iteration

/-- What the loops that are under way give from a cursor on: each its own reader, and its callers
behind that. -/
def Loops.outcome : Loops → Cursor → Except LexicalError (List Token)
  | .text before opened, cursor =>
    ((tokensFrom false before opened cursor).map Subtype.val).map (before.reverse ++ ·.1)
  | .script before opened caller, cursor =>
    ((tokensFrom true before opened cursor).map Subtype.val).bind (caller.outcome ·.2)
  | .template opened caller, cursor =>
    ((readTemplateLiteral opened cursor).map Subtype.val).bind (caller.outcome ·.2)
  | .tag opened name caller, cursor =>
    ((readAttributes opened name cursor).map Subtype.val).bind (caller.outcome ·.2)
  | .children opened name caller, cursor =>
    ((readChildren opened name cursor).map Subtype.val).bind (caller.outcome ·.2)

/-- What a script's callers give behind it, or what it gives itself if it is that of a whole
text. -/
def Loops.finish (caller : Option Loops) (before : List Token) (read : List Token × Cursor) :
    Except LexicalError (List Token) :=
  match caller with
  | none => .ok (before.reverse ++ read.1)
  | some caller => caller.outcome read.2

theorem Loops.finish_cons (caller : Option Loops) (token : Token) (before tokens : List Token)
    (last : Cursor) :
    finish caller (token :: before) (tokens, last) =
      finish caller before (token :: tokens, last) := by
  cases caller with
  | none => exact congrArg Except.ok (by rw [List.reverse_cons, List.append_assoc]; rfl)
  | some caller => rfl

theorem Loops.outcome_scriptOf (caller : Option Loops) (before : List Token)
    (opened : List OpenBracket) (cursor : Cursor) :
    (scriptOf caller before opened).outcome cursor =
      ((tokensFrom caller.isSome before opened cursor).map Subtype.val).bind
        (finish caller before) := by
  cases caller with
  | none =>
    rw [scriptOf, outcome, Option.isSome_none]
    cases tokensFrom false before opened cursor <;> rfl
  | some caller => rfl

namespace State

/-- What the loops that are under way give from where they stand. -/
def result (state : State) : Except LexicalError (List Token) :=
  state.loops.outcome state.cursor

end State

section Results

variable {caller : Loops}

namespace State

theorem result_enterElement (caller : Loops) (cursor : Cursor) :
    (enterElement caller cursor).outcome result =
      ((readElement cursor).map Subtype.val).bind (caller.outcome ·.2) := by
  rw [enterElement, readElement]
  cases hspacing : spacing cursor with
  | error e => rfl
  | ok read =>
    obtain ⟨⟨ended, start⟩, hle⟩ := read
    dsimp only
    split
    · rw [outcome, result, Loops.outcome]
      cases readChildren cursor.position "" start.next <;> rfl
    · rw [outcome, result, Loops.outcome]
      cases readAttributes cursor.position (String.ofList (start.takeWhile isTagNamePart))
        (start.skipWhile isTagNamePart) <;> rfl

theorem result_turnTemplate (opened : Position) (caller : Loops) (cursor : Cursor) :
    (turnTemplate opened caller cursor).outcome result =
      (Loops.template opened caller).outcome cursor := by
  obtain ⟨p, _ | ⟨c, s⟩⟩ := cursor
  · rw [Loops.outcome, readTemplateLiteral]
    rfl
  · rw [turnTemplate, Loops.outcome, readTemplateLiteral]
    dsimp only
    split
    · rfl
    split
    · split
      · rfl
      · rw [outcome, result, Loops.outcome]
        cases readTemplateLiteral opened (Cursor.advance 2 ⟨p, c :: s⟩) <;> rfl
    split
    · rw [outcome, result, Loops.enter, Loops.outcome]
      rcases tokensFrom true [] [] (Cursor.advance 2 ⟨p, c :: s⟩) with e | ⟨⟨tokens, after⟩, hle⟩
      · rfl
      · simp only [Except.map, Except.bind]
        rw [Loops.outcome]
        cases readTemplateLiteral opened after <;> rfl
    · rw [outcome, result, Loops.outcome]
      cases readTemplateLiteral opened (Cursor.next ⟨p, c :: s⟩) <;> rfl

theorem result_enterValue (caller : Loops) (cursor : Cursor) :
    (enterValue caller cursor).outcome result =
      ((readAttributeValue cursor).map Subtype.val).bind (caller.outcome ·.2) := by
  obtain ⟨p, _ | ⟨c, s⟩⟩ := cursor
  · rw [readAttributeValue]
    rfl
  · rw [enterValue, readAttributeValue]
    dsimp only
    split
    · cases skipQuoted c p (Cursor.next ⟨p, c :: s⟩) <;> rfl
    split
    · rw [outcome, result, Loops.enter, Loops.outcome]
      cases tokensFrom true [] [] (Cursor.next ⟨p, c :: s⟩) <;> rfl
    split
    · rw [result_enterElement]
      cases readElement (Cursor.next ⟨p, c :: s⟩) <;> rfl
    · rfl

theorem result_turnChildren (opened : Position) (name : String) (caller : Loops)
    (cursor : Cursor) :
    (turnChildren opened name caller cursor).outcome result =
      (Loops.children opened name caller).outcome cursor := by
  obtain ⟨p, _ | ⟨c, s⟩⟩ := cursor
  · rw [Loops.outcome, readChildren]
    rfl
  · rw [turnChildren, Loops.outcome, readChildren]
    dsimp only
    split
    · rw [outcome, result, Loops.enter, Loops.outcome]
      rcases tokensFrom true [] [] (Cursor.next ⟨p, c :: s⟩) with e | ⟨⟨tokens, after⟩, hle⟩
      · rfl
      · simp only [Except.map, Except.bind]
        rw [Loops.outcome]
        cases readChildren opened name after <;> rfl
    split
    · cases hspacing : spacing (Cursor.next ⟨p, c :: s⟩) with
      | error e => rfl
      | ok read =>
        obtain ⟨⟨ended, start⟩, hle⟩ := read
        dsimp only
        split
        · cases closingTag name start.next <;> rfl
        · rw [result_enterElement]
          rcases readElement start with e | ⟨⟨⟨⟩, after⟩, hle⟩
          · rfl
          · simp only [Except.map, Except.bind]
            rw [Loops.outcome]
            cases readChildren opened name after <;> rfl
    · rw [outcome, result, Loops.outcome]
      cases readChildren opened name (Cursor.next ⟨p, c :: s⟩) <;> rfl

theorem result_passLexeme (caller : Option Loops) (before : List Token)
    (opened : List OpenBracket) (freshLine : Bool) (p : Position) (c : Char) (s : List Char) :
    (passLexeme caller before opened freshLine ⟨p, c :: s⟩ c).outcome result =
      ((readLexeme before ⟨p, c :: s⟩).map Subtype.val).bind fun read =>
        let token : Token := ⟨read.1.1, read.1.2, p, freshLine⟩
        (trackBrackets opened token).bind fun stillOpened =>
          (Loops.scriptOf caller (token :: before) stillOpened).outcome read.2 := by
  rw [passLexeme, readLexeme]
  dsimp only
  split
  · rw [outcome, result, Loops.outcome]
    cases readTemplateLiteral p (Cursor.next ⟨p, c :: s⟩) <;> rfl
  split
  · rw [result_enterElement]
    cases readElement (Cursor.next ⟨p, c :: s⟩) <;> rfl
  · rcases readPlain before ⟨p, c :: s⟩ with e | ⟨⟨⟨kind, value⟩, after⟩, hlt⟩
    · rfl
    · simp only [Except.map, Except.bind]
      cases trackBrackets opened ⟨kind, value, p, freshLine⟩ <;> rfl

theorem result_turnScript (caller : Option Loops) (before : List Token)
    (opened : List OpenBracket) (cursor : Cursor) :
    (turnScript caller before opened cursor).outcome result =
      (Loops.scriptOf caller before opened).outcome cursor := by
  rw [turnScript, Loops.outcome_scriptOf, tokensFrom]
  cases hspacing : spacing cursor with
  | error e => rfl
  | ok read =>
    obtain ⟨⟨freshLine, p, _ | ⟨c, s⟩⟩, hle⟩ := read
    · rcases opened with _ | ⟨bracket, opened⟩ <;> cases caller
      · exact congrArg Except.ok (List.append_nil _).symm
      all_goals rfl
    dsimp only
    split
    · rename_i outer hclose
      rw [Option.isSome_some, Bool.true_and, if_pos hclose]
      rfl
    · rename_i caller _ _ hgoes
      have hnot : ¬ (caller.isSome && opened.isEmpty && c == '\x7d') = true := by
        cases caller with
        | none => exact Bool.false_ne_true
        | some outer => simpa using hgoes outer rfl
      rw [if_neg hnot, result_passLexeme]
      rcases readLexeme before ⟨p, c :: s⟩ with e | ⟨⟨⟨kind, value⟩, after⟩, hlt⟩
      · rfl
      simp only [Except.map, Except.bind]
      cases trackBrackets opened ⟨kind, value, p, freshLine⟩ with
      | error e => rfl
      | ok stillOpened =>
        dsimp only
        rw [Loops.outcome_scriptOf]
        rcases tokensFrom caller.isSome (⟨kind, value, p, freshLine⟩ :: before) stillOpened after
          with e | ⟨⟨tokens, last⟩, hlast⟩
        · rfl
        · exact Loops.finish_cons caller _ before tokens last

/-- In front of a backslash no spacing is passed. -/
theorem spacing_backslash (p : Position) (s : List Char) :
    Gives (spacing ⟨p, '\\' :: s⟩) false ⟨p, '\\' :: s⟩ :=
  gives_spacing_of_settled rfl

/-- An attribute's name that starts with a backslash passes nothing. -/
theorem passAttribute_backslash (caller : Loops) (p : Position) (s : List Char) :
    passAttribute caller ⟨p, '\\' :: s⟩ = .again ⟨caller, ⟨p, '\\' :: s⟩⟩ := by
  have hname : Gives (spacing (Cursor.skipWhile isTagNamePart ⟨p, '\\' :: s⟩)) false
      ⟨p, '\\' :: s⟩ := by
    rw [skipWhile_neg isTagNamePart (by decide)]
    exact spacing_backslash p s
  obtain ⟨hle, hspacing⟩ := hname
  rw [passAttribute]
  simp only [hspacing]
  rfl

/-- The readers that a tag's loop runs give an error in front of a backslash. -/
theorem readAttributes_backslash (opened : Position) (name : String) (p : Position)
    (s : List Char) :
    readAttributes opened name ⟨p, '\\' :: s⟩ = .error ⟨p, .stalledTag⟩ := by
  obtain ⟨hle, hspacing⟩ := spacing_backslash p s
  rw [readAttributes]
  simp only [hspacing]
  rfl

theorem result_passAttribute (opened : Position) (name : String) (caller : Loops)
    (start : Cursor) :
    (passAttribute (.tag opened name caller) start).outcome result =
      match spacing (start.skipWhile isTagNamePart) with
      | .error e => .error e
      | .ok ⟨(_, named), _⟩ =>
        if named.startsWith ['='] then
          match spacing named.next with
          | .error e => .error e
          | .ok ⟨(_, assigned), _⟩ =>
            ((readAttributeValue assigned).map Subtype.val).bind fun read =>
              (Loops.tag opened name caller).outcome read.2
        else (Loops.tag opened name caller).outcome named := by
  rw [passAttribute]
  cases spacing (start.skipWhile isTagNamePart) with
  | error e => rfl
  | ok read =>
    obtain ⟨⟨ended, named⟩, hle⟩ := read
    dsimp only
    split
    · cases spacing named.next with
      | error e => rfl
      | ok read => exact result_enterValue _ _
    · rfl

theorem result_turnTag (opened : Position) (name : String) (caller : Loops) (cursor : Cursor) :
    (turnTag opened name caller cursor).outcome result =
      (Loops.tag opened name caller).outcome cursor := by
  rw [turnTag, Loops.outcome, readAttributes]
  cases hspacing : spacing cursor with
  | error e => rfl
  | ok read =>
    obtain ⟨⟨ended, p, _ | ⟨c, s⟩⟩, hle⟩ := read
    · rfl
    dsimp only
    split
    · split <;> rfl
    split
    · rw [outcome, result, Loops.outcome]
      cases readChildren opened name (Cursor.next ⟨p, c :: s⟩) <;> rfl
    split
    · rw [outcome, result, Loops.enter, Loops.outcome]
      rcases tokensFrom true [] [] (Cursor.next ⟨p, c :: s⟩) with e | ⟨⟨tokens, after⟩, hle⟩
      · rfl
      · simp only [Except.map, Except.bind]
        rw [Loops.outcome]
        cases readAttributes opened name after <;> rfl
    by_cases hc : c = '\\'
    · subst hc
      rw [if_pos (show isNameStart '\\' = true from rfl), passAttribute_backslash, outcome,
        result, Loops.outcome, readAttributes_backslash]
      rfl
    rw [dif_neg hc]
    split
    · rw [result_passAttribute]
      cases spacing (Cursor.skipWhile isTagNamePart ⟨p, c :: s⟩) with
      | error e => rfl
      | ok read =>
        obtain ⟨⟨ended, named⟩, hle⟩ := read
        dsimp only
        split
        · cases spacing named.next with
          | error e => rfl
          | ok read =>
            obtain ⟨⟨ended', assigned⟩, hle'⟩ := read
            dsimp only
            rcases readAttributeValue assigned with e | ⟨⟨⟨⟩, after⟩, hle''⟩
            · rfl
            · simp only [Except.map, Except.bind]
              rw [Loops.outcome]
              cases readAttributes opened name after <;> rfl
        · rw [Loops.outcome]
          cases readAttributes opened name named <;> rfl
    · rfl

/-- A turn leaves what the loops give as it is. -/
theorem result_turn (state : State) : (turn state).outcome result = state.result := by
  obtain ⟨loops, cursor⟩ := state
  cases loops with
  | text before opened => exact result_turnScript none before opened cursor
  | script before opened caller => exact result_turnScript (some caller) before opened cursor
  | template opened caller => exact result_turnTemplate opened caller cursor
  | tag opened name caller => exact result_turnTag opened name caller cursor
  | children opened name caller => exact result_turnChildren opened name caller cursor

theorem result_start (source : String) : (start source).result = readTokens source := by
  rw [start, result, Loops.outcome, readTokens]
  cases tokensFrom false [] [] (skipInterpreterLine (.start source)) <;> rfl

end State

end Results

section Stalling

variable {state later : State} {source : String}

namespace State

/-- In front of a backslash, the loop of a tag goes round again in the state that it is in. -/
theorem turn_backslash (opened : Position) (name : String) (caller : Loops) (p : Position)
    (s : List Char) :
    turn ⟨.tag opened name caller, ⟨p, '\\' :: s⟩⟩ =
      .again ⟨.tag opened name caller, ⟨p, '\\' :: s⟩⟩ := by
  obtain ⟨hle, hspacing⟩ := spacing_backslash p s
  rw [turn, turnTag]
  simp only [hspacing]
  exact passAttribute_backslash _ p s

/-- A loop that stalls passes the spacing in front of the backslash, and from then on it goes round
again and again in the state that it is in, where the readers give an error. -/
theorem turn_of_stalls (h : state.Stalls) :
    ∃ ended settled, settled.loops = state.loops ∧
      Gives (spacing state.cursor) ended settled.cursor ∧
      turn state = .again settled ∧ turn settled = .again settled ∧
      settled.result = .error ⟨settled.cursor.position, .stalledTag⟩ := by
  obtain ⟨loops, cursor⟩ := state
  cases loops with
  | tag opened name caller =>
    obtain ⟨ended, ⟨p, _ | ⟨c, s⟩⟩, hspacing, hbackslash⟩ := h
    · cases hbackslash
    obtain rfl : c = '\\' := Option.some.inj hbackslash
    refine ⟨ended, ⟨.tag opened name caller, ⟨p, '\\' :: s⟩⟩, rfl, hspacing, ?_,
      turn_backslash opened name caller p s, ?_⟩
    · obtain ⟨hle, hspacing⟩ := hspacing
      rw [turn, turnTag]
      simp only [hspacing]
      exact passAttribute_backslash _ p s
    · rw [result, Loops.outcome, readAttributes_backslash]
      rfl
  | text => exact h.elim
  | script => exact h.elim
  | template => exact h.elim
  | children => exact h.elim

theorem not_ends_of_stalls (hcomes : Comes turn state later) (hstalls : later.Stalls)
    (result : Except LexicalError (List Token)) : ¬ Ends turn state result := by
  intro hends
  obtain ⟨-, settled, -, -, hturn, hrepeats, -⟩ := turn_of_stalls hstalls
  exact not_ends_of_repeats hrepeats
    ((hends.of_comes hcomes).of_comes (.again hturn (.refl settled)))

theorem result_of_comes (h : Comes turn state later) : later.result = state.result := by
  refine h.holds (fun next => next.result = state.result) rfl ?_
  intro next hnext
  have hturn := result_turn next
  cases hagain : turn next with
  | ends result => trivial
  | again further =>
    rw [hagain] at hturn
    exact hturn.trans hnext

theorem lowers_turn (h : ¬ state.Stalls) : (turn state).Leads (·.unread < state.unread) :=
  (passes_turn h).imp fun _ hpasses => hpasses.lt

/-- The loops end with what the readers give, unless one of them stalls. -/
theorem ends_of_not_stalls (h : ∀ later, Comes turn state later → ¬ later.Stalls) :
    Ends turn state state.result := by
  obtain ⟨result, hends⟩ := exists_ends unread fun next hcomes => lowers_turn (h next hcomes)
  rwa [hends.eq_value result_turn] at hends

/-- Text that holds no backslash has none behind its spacing. -/
theorem not_stalls_of_not_mem (h : '\\' ∉ state.cursor.rest) : ¬ state.Stalls := by
  obtain ⟨loops, cursor⟩ := state
  cases loops with
  | tag opened name caller =>
    rintro ⟨ended, ⟨p, rest⟩, hspacing, hbackslash⟩
    obtain ⟨passed, hleads⟩ := leadsTo_of_spacing hspacing
    have hmem : '\\' ∈ rest := List.mem_of_mem_head? hbackslash
    exact h (hleads.rest ▸ List.mem_append_right _ hmem)
  | text => exact id
  | script => exact id
  | template => exact id
  | children => exact id

theorem not_mem_of_comes (hsource : '\\' ∉ source.toList) (h : Comes turn (start source) state) :
    '\\' ∉ state.cursor.rest := by
  refine h.holds (fun next => '\\' ∉ next.cursor.rest) ?_ ?_
  · intro hmem
    have hleads := leads_skipInterpreterLine (.start source)
    have hstart : '\\' ∈ (Cursor.start source).rest := by
      rw [hleads.rest]
      exact List.mem_append_right _ hmem
    exact hsource hstart
  · intro next hnext
    refine (passes_turn (not_stalls_of_not_mem hnext)).imp ?_
    rintro further ⟨⟨passed, hleads⟩, -⟩ hmem
    exact hnext (hleads.rest ▸ List.mem_append_right _ hmem)

/-- In a source that opens an element, the first turn leads into its tag, behind the name. -/
theorem turn_start_element {c : Char} {s : List Char} (hsource : source.toList = '<' :: c :: s)
    (hopens : opensElement ('<' :: c :: s) = true) (hsettled : settled (c :: s) = true)
    (hc : c ≠ '>') :
    ∃ opened name caller, turn (start source) = .again
      ⟨.tag opened name caller,
        (Cursor.next ⟨.start, '<' :: c :: s⟩).skipWhile isTagNamePart⟩ := by
  have hstart : skipInterpreterLine (.start source) = ⟨.start, '<' :: c :: s⟩ :=
    skipInterpreterLine_of_cons hsource rfl
  have hend : (Cursor.next ⟨.start, '<' :: c :: s⟩).startsWith ['>'] = false := by
    simp [Cursor.startsWith, List.isPrefixOf, Ne.symm hc]
  have hmark : settled (Cursor.mk .start ('<' :: c :: s)).rest = true := rfl
  have hname : settled (Cursor.next ⟨.start, '<' :: c :: s⟩).rest = true := hsettled
  obtain ⟨hle, hspacing⟩ := gives_spacing_of_settled hmark
  obtain ⟨hle', hspacing'⟩ := gives_spacing_of_settled hname
  rw [start, turn, hstart, turnScript]
  simp only [hspacing, passLexeme, hopens, awaitsOperand, enterElement, hspacing', hend]
  exact ⟨_, _, _, rfl⟩

/-- The reading of a script ends unless a tag's loop comes to a backslash. Each turn of a loop
leaves less text, be it one that goes round, one that calls another reader or one that leaves off,
unless the loop stalls; and one that stalls goes on in the same state for ever. If none does, as
without any backslash in the source, the loops end with the tokens or the error that the readers
give, and if one does, they never end, while the readers give an error of its own. -/
theorem ends_iff_never_stalls (source : String) :
    PlainLoopsProgress ∧
    (∀ state : State, ¬ state.Stalls → (turn state).Leads (·.unread < state.unread)) ∧
    (Ends turn (start source) (readTokens source) ↔
      ∀ state, Comes turn (start source) state → ¬ state.Stalls) ∧
    ('\\' ∉ source.toList → ∀ state, Comes turn (start source) state → ¬ state.Stalls) ∧
    ∀ state, state.Stalls →
      (∃ ended settled, settled.loops = state.loops ∧
        Gives (spacing state.cursor) ended settled.cursor ∧
        turn state = .again settled ∧ turn settled = .again settled) ∧
      (Comes turn (start source) state →
        (∀ result, ¬ Ends turn (start source) result) ∧
        ∃ p, readTokens source = .error ⟨p, .stalledTag⟩) := by
  refine ⟨plainLoopsProgress, ?_, ⟨?_, ?_⟩, ?_, ?_⟩
  · exact fun state hstate => lowers_turn hstate
  · exact fun hends state hcomes hstalls => not_ends_of_stalls hcomes hstalls _ hends
  · intro hnever
    rw [← result_start]
    exact ends_of_not_stalls hnever
  · exact fun hsource state hcomes => not_stalls_of_not_mem (not_mem_of_comes hsource hcomes)
  · intro state hstalls
    obtain ⟨ended, settled, hloops, hspacing, hturn, hrepeats, herror⟩ := turn_of_stalls hstalls
    refine ⟨⟨ended, settled, hloops, hspacing, hturn, hrepeats⟩, fun hcomes =>
      ⟨not_ends_of_stalls hcomes hstalls, settled.cursor.position, ?_⟩⟩
    have hresult := (result_of_comes (.again hturn (.refl settled))).trans (result_of_comes hcomes)
    rw [← result_start, ← hresult]
    exact herror

/-- Reading `<a \>` comes to the backslash in the tag. -/
theorem comes_backslashTag : ∃ state, Comes turn (start "<a \\>") state ∧ state.Stalls := by
  have hsource : "<a \\>".toList = ['<', 'a', ' ', '\\', '>'] := rfl
  obtain ⟨opened, name, caller, hturn⟩ :=
    turn_start_element hsource (by decide +kernel) rfl (by decide)
  refine ⟨_, .again hturn (.refl _), ?_⟩
  have hname : (Cursor.next ⟨.start, ['<', 'a', ' ', '\\', '>']⟩).skipWhile isTagNamePart =
      ⟨⟨1, 3⟩, [' ', '\\', '>']⟩ :=
    (skipWhile_pos isTagNamePart (by decide +kernel)).trans
      (skipWhile_neg isTagNamePart (by decide +kernel))
  have hgap : skipSpacing false ⟨⟨1, 3⟩, [' ', '\\', '>']⟩ = .ok (false, ⟨⟨1, 4⟩, ['\\', '>']⟩) :=
    (skipSpacing_space rfl).trans (skipSpacing_of_settled rfl _ _)
  rw [hname]
  exact ⟨false, _, Written.spacing_of_skipSpacing hgap, rfl⟩

/-- With a backslash in the tag, reading `<a \>` never ends, and without it `<a b/>` is read. -/
theorem endless_backslashTag :
    (∀ result, ¬ Ends turn (start "<a \\>") result) ∧
    Ends turn (start "<a b/>") (readTokens "<a b/>") := by
  obtain ⟨state, hcomes, hstalls⟩ := comes_backslashTag
  obtain ⟨-, -, -, -, hstalled⟩ := ends_iff_never_stalls "<a \\>"
  obtain ⟨-, -, hends, hplain, -⟩ := ends_iff_never_stalls "<a b/>"
  exact ⟨((hstalled state hstalls).2 hcomes).1, hends.2 (hplain (by decide))⟩

end State

end Stalling

end RouteTable.Script
