import RouteTable.Proofs.Script.Brackets
import RouteTable.Proofs.Script.Lockstep
import RouteTable.Proofs.Script.Template

/-!
Readers at cursors in lockstep. A reader that succeeds and leaves off within what is alike does the
same at the other cursor. One thing may tell the texts apart, which is how far a `<` looks to find
out whether it opens an element, but not within a script between braces, which has its closing brace
behind every `<` in it. A script that goes on to the end of its text is read alike where a closing
brace ends it, since no bracket of its own is open there.
-/

namespace RouteTable.Script

open Cursor

/-- The brackets that are open after a token depend on the token's shape. -/
theorem trackBrackets_congr {opened opened' stillOpened : List OpenBracket} {token token' : Token}
    (hopened : opened'.map OpenBracket.opener = opened.map OpenBracket.opener)
    (htoken : shape token' = shape token) (h : trackBrackets opened token = .ok stillOpened) :
    ∃ stillOpened', trackBrackets opened' token' = .ok stillOpened' ∧
      stillOpened'.map OpenBracket.opener = stillOpened.map OpenBracket.opener := by
  simp only [shape, Prod.mk.injEq] at htoken
  obtain ⟨hkind, hvalue, -⟩ := htoken
  have hopener : token'.isOpener = token.isOpener := by simp [Token.isOpener, hkind, hvalue]
  have hcloser : token'.isCloser = token.isCloser := by simp [Token.isCloser, hkind, hvalue]
  simp only [trackBrackets, hopener, hcloser, hvalue] at h ⊢
  split at h
  · rename_i hopens
    cases h
    exact ⟨_, by rw [if_pos hopens], by simp [hopened]⟩
  · rename_i hopens
    rw [if_neg hopens]
    split at h
    · rename_i hcloses
      rw [if_pos hcloses]
      rcases opened with _ | ⟨innermost, outer⟩
      · cases h
      · obtain ⟨innermost', outer', rfl, hinnermost, houter⟩ := List.map_eq_cons_iff.1 hopened
        dsimp only at h ⊢
        rw [hinnermost]
        split at h
        · rename_i hpair
          cases h
          exact ⟨outer', by rw [if_pos hpair], houter⟩
        · cases h
    · rename_i hcloses
      cases h
      exact ⟨opened', by rw [if_neg hcloses], hopened⟩

section Repeats

/-- Whether a reading that leaves off within what is alike is repeated by another one at each
cursor of the other text at the same place. -/
def Lockstep.Repeats (L : Lockstep)
    (read read' : (cursor : Cursor) → Except LexicalError (Within cursor Unit))
    (cursor : Cursor) : Prop :=
  ∀ cursor' after, L.Related cursor cursor' → Gives (read cursor) () after →
    L.bound ≤ after.remaining →
      ∃ after', Gives (read' cursor') () after' ∧ L.Related after after'

/-- Whether the places behind a script are the same: those behind its closing brace, or those at the
end of the first text and behind the brace that closes the script in the second one. -/
def Lockstep.SameEnd (L : Lockstep) (embedded : Bool) (after after' : Cursor) : Prop :=
  if embedded then L.Related after after' else after'.rest = L.closing.getD []

/-- Whether a `<` that may open an element does so in both texts or in neither. -/
def OpensAlike (before : List Token) (cursor cursor' : Cursor) : Prop :=
  cursor.rest.head? = some '<' → awaitsOperand before = true →
    opensElement cursor'.rest = opensElement cursor.rest

/-- Whether a reader that leaves off within what is alike does the same at each cursor of the other
text at the same place, behind tokens of the same shapes and with the same brackets open. -/
def Reader.Mirrors (L : Lockstep) : Reader → Prop
  | .script embedded before opened cursor =>
    embedded = true ∨ L.bound = 0 →
      ∀ before' opened' cursor' tokens after, before'.map shape = before.map shape →
        opened'.map OpenBracket.opener = opened.map OpenBracket.opener →
          L.Related cursor cursor' →
            Gives (tokensFrom embedded before opened cursor) tokens after →
              L.bound ≤ after.remaining →
                ∃ tokens' after',
                  Gives (tokensFrom (embedded || L.closing.isSome) before' opened' cursor')
                      tokens' after' ∧
                    tokens'.map shape = tokens.map shape ∧ L.SameEnd embedded after after'
  | .lexeme before cursor =>
    ∀ before' cursor' result after, before'.map shape = before.map shape →
      OpensAlike before cursor cursor' → L.Related cursor cursor' →
        (readLexeme before cursor).map Subtype.val = .ok (result, after) →
          L.bound ≤ after.remaining →
            ∃ after', (readLexeme before' cursor').map Subtype.val = .ok (result, after') ∧
              L.Related after after'
  | .template opened cursor =>
    ∀ opened', L.Repeats (readTemplateLiteral opened) (readTemplateLiteral opened') cursor
  | .element cursor => L.Repeats readElement readElement cursor
  | .attributes opened name cursor =>
    ∀ opened', L.Repeats (readAttributes opened name) (readAttributes opened' name) cursor
  | .attributeValue cursor => L.Repeats readAttributeValue readAttributeValue cursor
  | .children opened name cursor =>
    ∀ opened', L.Repeats (readChildren opened name) (readChildren opened' name) cursor

end Repeats

/-- A `}` is a token of its own wherever it stands. -/
theorem readLexeme_brace (before : List Token) (p : Position) (s : List Char) :
    (readLexeme before ⟨p, '\x7d' :: s⟩).map Subtype.val =
      .ok ((.punctuator, "\x7d"), Cursor.next ⟨p, '\x7d' :: s⟩) := by
  have hreadable : Written.Readable s [⟨[], "\x7d".toList, .punctuator, "\x7d"⟩] :=
    (Written.readable_nil s).mark (c := '\x7d') rfl (by decide) rfl
  cases hreadable before ⟨p, '\x7d' :: s⟩ with
  | cons hfirst _ => exact hfirst.lexeme p

/-- A token whose brackets go with those that are open does not close the script. -/
theorem ReadsLexeme.of_track {embedded : Bool} {before : List Token}
    {opened stillOpened : List OpenBracket} {cursor start after : Cursor} {token : Token}
    {hlt : after.remaining < start.remaining}
    (h : ReadsLexeme embedded opened cursor token.freshLine start)
    (hread : readLexeme before start = .ok ⟨((token.kind, token.value), after), hlt⟩)
    (htrack : trackBrackets opened token = .ok stillOpened) (embedded' : Bool) :
    ReadsLexeme embedded' opened cursor token.freshLine start := by
  obtain ⟨hspacing, c, s, hs, -⟩ := h
  refine ⟨hspacing, c, s, hs, ?_⟩
  by_contra hclose
  simp only [Bool.not_eq_false, Bool.and_eq_true, List.isEmpty_iff, beq_iff_eq] at hclose
  obtain ⟨⟨-, rfl⟩, rfl⟩ := hclose
  obtain ⟨p, rest⟩ := start
  obtain rfl : rest = '\x7d' :: s := hs
  have hbrace := readLexeme_brace before p s
  rw [hread] at hbrace
  simp only [Except.map, Except.ok.injEq, Prod.mk.injEq] at hbrace
  obtain ⟨⟨hkind, hvalue⟩, -⟩ := hbrace
  have hcloser : token.isCloser = true := by
    rw [Token.isCloser, hkind, hvalue]
    decide
  rw [trackBrackets_unopened hcloser] at htrack
  cases htrack

namespace Reader

section Step

open Lockstep

variable {L : Lockstep} {opened : Position} {name : String} {cursor : Cursor}

/-- A script between braces is read alike. -/
theorem Mirrors.embedded {before tokens : List Token} {stillOpened : List OpenBracket}
    {cursor' after : Cursor} (h : Mirrors L (.script true before stillOpened cursor))
    (hcursor : L.Related cursor cursor')
    (hread : Gives (tokensFrom true before stillOpened cursor) tokens after)
    (hwithin : L.bound ≤ after.remaining) :
    ∃ tokens' after', Gives (tokensFrom true before stillOpened cursor') tokens' after' ∧
      L.Related after after' := by
  obtain ⟨tokens', after', hread', -, hafter⟩ :=
    h (.inl rfl) before stillOpened cursor' tokens after rfl rfl hcursor hread hwithin
  exact ⟨tokens', after', hread', hafter⟩

theorem mirrors_lexeme {before : List Token}
    (ih : ∀ called, Calls (.lexeme before cursor) called → called.Mirrors L) :
    Mirrors L (.lexeme before cursor) := by
  intro before' cursor' result after hbefore halike hcursor hread hwithin
  have hoperand := awaitsOperand_congr hbefore
  obtain ⟨kind, value⟩ := result
  obtain ⟨hlt, hread⟩ := Written.readLexeme_of_map hread
  rcases readLexeme_cases hread with ⟨p, s, rfl, hresult, hgives⟩ |
    ⟨p, s, rfl, hresult, hawaits, hopens, hgives⟩ | ⟨p, c, s, rfl, hquote, hangle, hplain⟩
  · obtain ⟨p', s', rfl, hnext⟩ := exists_next hcursor (Nat.le_trans hwithin hgives.1)
    obtain ⟨after', hgives', hafter⟩ := ih _ .template p' _ _ hnext hgives hwithin
    rw [hresult]
    exact ⟨after', readLexeme_template hgives', hafter⟩
  · obtain ⟨p', s', rfl, hnext⟩ := exists_next hcursor (Nat.le_trans hwithin hgives.1)
    obtain ⟨after', hgives', hafter⟩ := ih _ (.element hawaits hopens) _ _ hnext hgives hwithin
    rw [hresult]
    exact ⟨after', readLexeme_element (hoperand.trans hawaits) ((halike rfl hawaits).trans hopens)
      hgives', hafter⟩
  · have hangle' : (c == '<' && awaitsOperand before' && opensElement cursor'.rest) = false := by
      rw [hoperand]
      by_cases hc : c = '<'
      · subst hc
        cases hawaits : awaitsOperand before with
        | false => rfl
        | true => rwa [halike rfl hawaits, ← hawaits]
      · simp only [beq_eq_false_iff_ne.2 hc, Bool.false_and]
    obtain ⟨p', s', rfl, -⟩ := L.cons hcursor
    rw [readLexeme_plain hquote hangle' p']
    obtain ⟨after', hread', hafter⟩ :=
      related_readsPlain hcursor hbefore (readsPlain_of_readPlain hplain) hwithin
    exact ⟨after', hread'.map_readPlain, hafter⟩

/-- A script between braces has its closing brace behind every `<`. -/
theorem opensAlike_of_brace {start start' last : Cursor} {before : List Token} {body : List Char}
    (hstart : L.Related start start') (hbody : start.Leads (body ++ ['\x7d']) last)
    (hwithin : L.bound ≤ last.remaining) : OpensAlike before start start' := by
  intro hhead _
  have hrest := hbody.rest
  obtain ⟨p, rest⟩ := start
  obtain ⟨s, rfl⟩ := List.head?_eq_some_iff.1 hhead
  apply L.opens hstart
  rcases body with _ | ⟨c, body⟩
  · cases hrest
  · have hs : s = body ++ '\x7d' :: last.rest := by simpa using (List.cons.inj hrest).2
    exact .inr ⟨body, last.rest, hs, hwithin⟩

/-- Behind the same spacing, tokens of the same shape come next. -/
theorem readsToken_of_mirrors {embedded : Bool} {before before' : List Token}
    {opened opened' : List OpenBracket} {cursor' start start' after : Cursor} {token : Token}
    {hlt : after.remaining < start.remaining} (hmirrors : Mirrors L (.lexeme before start))
    (hbefore : before'.map shape = before.map shape)
    (hopened : opened'.map OpenBracket.opener = opened.map OpenBracket.opener)
    (hlexeme : ReadsLexeme embedded opened cursor token.freshLine start)
    (hread : readLexeme before start = .ok ⟨((token.kind, token.value), after), hlt⟩)
    (hspacing' : Gives (spacing cursor') token.freshLine start')
    (hstart : L.Related start start') (halike : OpensAlike before start start')
    (hwithin : L.bound ≤ after.remaining) :
    ∃ token' after', ReadsToken embedded before' opened' cursor' token' after' ∧
      shape token' = shape token ∧ L.Related after after' := by
  obtain ⟨after', hread', hafter⟩ :=
    hmirrors before' start' _ after hbefore halike hstart (by rw [hread]; rfl) hwithin
  obtain ⟨hlt', hread'⟩ := Written.readLexeme_of_map hread'
  have hlexeme' : ReadsLexeme embedded opened' cursor' token.freshLine start' := by
    obtain ⟨c, s, hs, hgoes⟩ := hlexeme.2
    obtain ⟨s', hs'⟩ := exists_cons hstart hs
    have hempty : opened'.isEmpty = opened.isEmpty := by
      rw [← List.isEmpty_map, hopened, List.isEmpty_map]
    exact ⟨hspacing', c, s', hs', by rw [hempty, hgoes]⟩
  exact ⟨⟨token.kind, token.value, start'.position, token.freshLine⟩, after',
    ⟨start', hlexeme', rfl, hlt', hread'⟩, rfl, hafter⟩

/-- A script that ends its text ends where spacing comes to the end of the other text, or to the
closing brace there. -/
theorem gives_of_ending {before : List Token} {freshLine : Bool} {start : Cursor}
    (hspacing : Gives (spacing cursor) freshLine start) (hrest : start.rest = L.ending) :
    ∃ after, Gives (tokensFrom L.closing.isSome before [] cursor) [] after ∧
      after.rest = L.closing.getD [] := by
  rw [ending] at hrest
  rcases hclosing : L.closing with _ | behind
  · rw [hclosing] at hrest
    exact ⟨start, gives_tokensFrom_end hspacing hrest, hrest⟩
  · rw [hclosing] at hrest
    refine ⟨start.next, gives_tokensFrom_brace hspacing hrest, ?_⟩
    rw [rest_next, hrest]
    rfl

/-- Scripts that are at the same place behind the spacing at their start are read alike. -/
theorem mirrors_of_spacing {embedded freshLine ended : Bool} {before before' tokens : List Token}
    {opened opened' : List OpenBracket} {cursor' start start' after : Cursor}
    (ih : ∀ called, Calls (.script embedded before opened cursor) called → called.Mirrors L)
    (hscript : embedded = true ∨ L.bound = 0) (hbefore : before'.map shape = before.map shape)
    (hopened : opened'.map OpenBracket.opener = opened.map OpenBracket.opener)
    (hspacing : Gives (spacing cursor) freshLine start)
    (hspacing' : Gives (spacing cursor') ended start')
    (hstart : L.SpacingAlike (freshLine, start) (ended, start'))
    (h : Gives (tokensFrom embedded before opened cursor) tokens after)
    (hwithin : L.bound ≤ after.remaining) :
    ∃ tokens' after',
      Gives (tokensFrom (embedded || L.closing.isSome) before' opened' cursor') tokens' after' ∧
        tokens'.map shape = tokens.map shape ∧ L.SameEnd embedded after after' := by
  obtain ⟨hsame, hend'⟩ := hstart
  rcases tokensFrom_cases h with ⟨_, _, hspace, rfl, rfl, hend⟩ |
    ⟨token, behind, stillOpened, further, rfl, htoken, htrack, hfurther⟩
  · obtain ⟨rfl, rfl⟩ := hspace.unique hspacing
    obtain rfl := List.map_eq_nil_iff.1 hopened
    rcases hend with ⟨rfl, hrest, rfl⟩ | ⟨rfl, hhead, rfl⟩
    · obtain ⟨after', hread', hafter⟩ := gives_of_ending hspacing' (hend' hrest)
      exact ⟨[], after', hread', rfl, hafter⟩
    · obtain ⟨s, hs⟩ := List.head?_eq_some_iff.1 hhead
      obtain ⟨rfl, hstart⟩ := hsame (.inl (by simp [hs]))
      obtain ⟨s', hs'⟩ := exists_cons hstart hs
      exact ⟨[], _, gives_tokensFrom_brace hspacing' hs', rfl, related_next hstart hs hwithin⟩
  · have hreads := htoken
    obtain ⟨start, hlexeme, hposition, hlt, hread⟩ := hreads
    obtain ⟨rfl, rfl⟩ := hlexeme.1.unique hspacing
    obtain ⟨rfl, hstart⟩ := hsame (.inl (List.length_pos_iff.1 (Nat.zero_lt_of_lt hlt)))
    have halike : OpensAlike before start start' := by
      rcases hscript with rfl | hbound
      · obtain ⟨passed, hpassed⟩ := passesText (.lexeme before start) behind ⟨_, hlt, hread⟩
        obtain ⟨body, hbody⟩ := leads_of_embedded hfurther
        have hleads := hpassed.trans hbody
        rw [← List.append_assoc] at hleads
        exact opensAlike_of_brace hstart hleads hwithin
      · intro hhead _
        obtain ⟨p, rest⟩ := start
        obtain ⟨s, rfl⟩ := List.head?_eq_some_iff.1 hhead
        exact L.opens hstart (.inl hbound)
    have hlexeme' := hlexeme.of_track hread htrack (embedded || L.closing.isSome)
    obtain ⟨token', behind', htoken', hshape, hbehind⟩ := readsToken_of_mirrors
      (ih _ (.lexeme hlexeme)) hbefore hopened hlexeme' hread hspacing' hstart halike
      (Nat.le_trans hwithin hfurther.1)
    obtain ⟨stillOpened', htrack', hstill⟩ := trackBrackets_congr hopened hshape htrack
    have hshapes : (token' :: before').map shape = (token :: before).map shape := by
      rw [List.map_cons, List.map_cons, hshape, hbefore]
    obtain ⟨further', after', hfurther', hsame, hafter⟩ := ih _ (.further htoken htrack) hscript
      _ _ _ _ _ hshapes hstill hbehind hfurther hwithin
    exact ⟨_, after', gives_tokensFrom htoken' htrack' hfurther', by simp [hshape, hsame], hafter⟩

theorem mirrors_script {embedded : Bool} {before : List Token} {opened : List OpenBracket}
    (ih : ∀ called, Calls (.script embedded before opened cursor) called → called.Mirrors L) :
    Mirrors L (.script embedded before opened cursor) := by
  intro hscript before' opened' cursor' tokens after hbefore hopened hcursor h hwithin
  obtain ⟨freshLine, start, hspacing, hle⟩ := spacing_of_tokensFrom h
  obtain ⟨ended, start', hspacing', halike⟩ :=
    spacing_of_related hcursor hspacing (Nat.le_trans hwithin hle)
  exact mirrors_of_spacing ih hscript hbefore hopened hspacing hspacing' halike h hwithin

theorem mirrors_template
    (ih : ∀ called, Calls (.template opened cursor) called → called.Mirrors L) :
    Mirrors L (.template opened cursor) := by
  rintro opened' cursor' after hcursor h hwithin
  cases reads_template h with
  | templateEnd =>
    obtain ⟨p', s', rfl, hnext⟩ := exists_next hcursor hwithin
    exact ⟨_, Reads.templateEnd.leaves, hnext⟩
  | @templateEscape _ p c s _ hread =>
    have hleft : 2 ≤ (Cursor.mk p ('\\' :: c :: s)).remaining := Nat.le_add_left 2 s.length
    obtain ⟨hadvance, -⟩ := related_advance hcursor (Nat.le_trans hwithin hread.1) (.inl hleft)
    obtain ⟨after', hread', hafter⟩ := ih _ .templateEscape opened' _ _ hadvance hread hwithin
    obtain ⟨p', s', rfl, -⟩ := exists_of_escape hcursor
    exact ⟨after', (Reads.templateEscape hread').leaves, hafter⟩
  | @templateText _ p c s _ hend hescape hscript hread =>
    have hscript' : ¬ (c = '$' ∧ cursor'.next.rest.head? = some '\x7b') := by
      rintro ⟨rfl, hmark⟩
      obtain ⟨p', s', rfl, hcons⟩ := L.cons hcursor
      have hmarks := head?_beq (hcons (.inl (by decide))) (c := '\x7b') (by decide)
      rw [hmark, rest_next] at hmarks
      exact hscript ⟨rfl, beq_iff_eq.1 hmarks.symm⟩
    obtain ⟨p', s', rfl, hnext⟩ := exists_next hcursor (Nat.le_trans hwithin hread.1)
    obtain ⟨after', hread', hafter⟩ :=
      ih _ (.templateText hend hescape hscript) opened' _ _ hnext hread hwithin
    exact ⟨after', (Reads.templateText hend hescape hscript' hread').leaves, hafter⟩
  | @templateScript _ p s _ _ _ hscript hread =>
    have hwithinScript := Nat.le_trans hwithin hread.1
    have hleft : 2 ≤ (Cursor.mk p ('$' :: '\x7b' :: s)).remaining := Nat.le_add_left 2 s.length
    obtain ⟨hadvance, -⟩ :=
      related_advance hcursor (Nat.le_trans hwithinScript hscript.1) (.inl hleft)
    obtain ⟨tokens', behind', hscript', hbehind⟩ :=
      (ih _ .templateScript).embedded hadvance hscript hwithinScript
    obtain ⟨after', hread', hafter⟩ :=
      ih _ (.templateAfter hscript) opened' _ _ hbehind hread hwithin
    obtain ⟨p', s', rfl, hcons⟩ := L.cons hcursor
    obtain ⟨q', r', hmark, -⟩ := L.cons (hcons (.inl (by decide)))
    cases hmark
    exact ⟨after', (Reads.templateScript hscript' hread').leaves, hafter⟩

theorem mirrors_element (ih : ∀ called, Calls (.element cursor) called → called.Mirrors L) :
    Mirrors L (.element cursor) := by
  rintro cursor' after hcursor h hwithin
  cases reads_element h with
  | fragment hspacing hend hread =>
    have hwithinNext := Nat.le_trans hwithin hread.1
    have hlt := remaining_of_startsWith hend
    obtain ⟨start', hspacing', hstarts⟩ := related_spacing hcursor hspacing
      (Nat.le_trans hwithinNext (Nat.le_of_lt hlt)) (Nat.zero_lt_of_lt hlt)
    obtain ⟨after', hread', hafter⟩ := ih _ (.fragment hspacing hend) cursor'.position _ _
      (related_next_of_startsWith hstarts hend hwithinNext) hread hwithin
    have hend' := (startsWith_eq hstarts ['>'] (by decide)).trans hend
    exact ⟨after', (Reads.fragment hspacing' hend' hread').leaves, hafter⟩
  | @tagName _ start _ _ hspacing hend hread =>
    have hwithinName := Nat.le_trans hwithin hread.1
    have hskip := remaining_skipWhile_le isTagNamePart start
    obtain ⟨_, behind, hbehind, hlt⟩ := spacing_of_readAttributes hread
    have hleft := Nat.lt_of_lt_of_le hlt (Nat.le_trans hbehind.1 hskip)
    obtain ⟨start', hspacing', hstarts⟩ := related_spacing hcursor hspacing
      (Nat.le_trans hwithinName hskip) (Nat.zero_lt_of_lt hleft)
    obtain ⟨hskip, htake⟩ := related_tagName hstarts hwithinName
    obtain ⟨after', hread', hafter⟩ := ih _ (.tagName hspacing hend) cursor'.position _ _
      hskip hread hwithin
    have hend' := (startsWith_eq hstarts ['>'] (by decide)).trans hend
    rw [← htake] at hread'
    exact ⟨after', (Reads.tagName hspacing' hend' hread').leaves, hafter⟩

theorem mirrors_attributeValue
    (ih : ∀ called, Calls (.attributeValue cursor) called → called.Mirrors L) :
    Mirrors L (.attributeValue cursor) := by
  rintro cursor' after hcursor h hwithin
  cases reads_attributeValue h with
  | quoted hquote hread =>
    obtain ⟨p', s', rfl, hnext⟩ := exists_next hcursor (Nat.le_trans hwithin hread.1)
    obtain ⟨after', hread', hafter⟩ := related_skipQuoted hnext p' hread hwithin
    exact ⟨after', (Reads.quoted hquote hread').leaves, hafter⟩
  | valueScript hread =>
    obtain ⟨p', s', rfl, hnext⟩ := exists_next hcursor (Nat.le_trans hwithin hread.1)
    obtain ⟨tokens', after', hread', hafter⟩ := (ih _ .valueScript).embedded hnext hread hwithin
    exact ⟨after', (Reads.valueScript hread').leaves, hafter⟩
  | valueElement hread =>
    obtain ⟨p', s', rfl, hnext⟩ := exists_next hcursor (Nat.le_trans hwithin hread.1)
    obtain ⟨after', hread', hafter⟩ := ih _ .valueElement _ _ hnext hread hwithin
    exact ⟨after', (Reads.valueElement hread').leaves, hafter⟩

/-- The name of an attribute is passed alike. -/
theorem related_namesAttribute {cursor' next : Cursor} (h : L.Related cursor cursor')
    (hname : NamesAttribute cursor next) (hwithin : L.bound ≤ next.remaining)
    (hleft : 0 < next.remaining) :
    ∃ next', NamesAttribute cursor' next' ∧ L.Related next next' := by
  obtain ⟨freshLine, ended, p, c, s, hspacing, hstart, hstalled, hnext⟩ := hname
  have hskip := Nat.le_trans hwithin hnext.1
  have hwithinStart := Nat.le_trans hskip (remaining_skipWhile_le isTagNamePart _)
  obtain ⟨start', hspacing', hstarts⟩ :=
    related_spacing h hspacing hwithinStart (Nat.succ_pos _)
  obtain ⟨next', hnext', hnexts⟩ :=
    related_spacing (related_tagName hstarts hskip).1 hnext hwithin hleft
  obtain ⟨p', s', rfl, -⟩ := L.cons hstarts
  exact ⟨next', ⟨_, _, p', c, s', hspacing', hstart, hstalled, hnext'⟩, hnexts⟩

theorem mirrors_attributes
    (ih : ∀ called, Calls (.attributes opened name cursor) called → called.Mirrors L) :
    Mirrors L (.attributes opened name cursor) := by
  rintro opened' cursor' after hcursor h hwithin
  -- Behind spacing, a character within what is alike comes next in both texts.
  have hbehindSpacing {freshLine : Bool} {p : Position} {c : Char} {s : List Char}
      (hspacing : Gives (spacing cursor) freshLine ⟨p, c :: s⟩)
      (hle : L.bound ≤ (Cursor.next ⟨p, c :: s⟩).remaining) :
      ∃ p' s', Gives (spacing cursor') freshLine ⟨p', c :: s'⟩ ∧
        L.Related (Cursor.next ⟨p, c :: s⟩) (Cursor.next ⟨p', c :: s'⟩) := by
    have hlt : (Cursor.next ⟨p, c :: s⟩).remaining < (Cursor.mk p (c :: s)).remaining :=
      remaining_next_lt rfl
    obtain ⟨start', hspacing', hstarts⟩ := related_spacing hcursor hspacing
      (Nat.le_trans hle (Nat.le_of_lt hlt)) (Nat.succ_pos _)
    obtain ⟨p', s', rfl, hnext⟩ := exists_next hstarts hle
    exact ⟨p', s', hspacing', hnext⟩
  cases reads_attributes h with
  | selfClosing hspacing hend =>
    have hlt := remaining_of_startsWith hend
    obtain ⟨p', s', hspacing', hnext⟩ :=
      hbehindSpacing hspacing (Nat.le_trans hwithin (Nat.le_of_lt hlt))
    have hend' := (startsWith_eq hnext ['>'] (by decide)).trans hend
    exact ⟨_, (Reads.selfClosing hspacing' hend').leaves,
      related_next_of_startsWith hnext hend hwithin⟩
  | tagEnd hspacing hread =>
    obtain ⟨p', s', hspacing', hnext⟩ := hbehindSpacing hspacing (Nat.le_trans hwithin hread.1)
    obtain ⟨after', hread', hafter⟩ :=
      ih _ (.tagEnd hspacing) opened' _ _ hnext hread hwithin
    exact ⟨after', (Reads.tagEnd hspacing' hread').leaves, hafter⟩
  | attributeScript hspacing hscript hread =>
    have hwithinScript := Nat.le_trans hwithin hread.1
    obtain ⟨p', s', hspacing', hnext⟩ :=
      hbehindSpacing hspacing (Nat.le_trans hwithinScript hscript.1)
    obtain ⟨tokens', behind', hscript', hbehind⟩ :=
      (ih _ (.attributeScript hspacing)).embedded hnext hscript hwithinScript
    obtain ⟨after', hread', hafter⟩ :=
      ih _ (.attributeAfter hspacing hscript) opened' _ _ hbehind hread hwithin
    exact ⟨after', (Reads.attributeScript hspacing' hscript' hread').leaves, hafter⟩
  | bareName hname hvalue hread =>
    obtain ⟨_, behind, hbehind, hlt⟩ := spacing_of_readAttributes hread
    obtain ⟨next', hname', hnext⟩ := related_namesAttribute hcursor hname
      (Nat.le_trans hwithin hread.1) (Nat.zero_lt_of_lt (Nat.lt_of_lt_of_le hlt hbehind.1))
    obtain ⟨after', hread', hafter⟩ :=
      ih _ (.bareName hname hvalue) opened' _ _ hnext hread hwithin
    have hvalue' := (startsWith_eq hnext ['='] (by decide)).trans hvalue
    exact ⟨after', (Reads.bareName hname' hvalue' hread').leaves, hafter⟩
  | value hname hvalue hassigned hgives hread =>
    have hwithinValue := Nat.le_trans hwithin hread.1
    have hwithinAssigned := Nat.le_trans hwithinValue hgives.1
    have hwithinNext := Nat.le_trans hwithinAssigned hassigned.1
    have hlt := remaining_of_startsWith hvalue
    obtain ⟨next', hname', hnext⟩ := related_namesAttribute hcursor hname
      (Nat.le_trans hwithinNext (Nat.le_of_lt hlt)) (Nat.zero_lt_of_lt hlt)
    obtain ⟨assigned', hassigned', hassigns⟩ := related_spacing
      (related_next_of_startsWith hnext hvalue hwithinNext) hassigned hwithinAssigned
      (remaining_readAttributeValue_pos hgives)
    obtain ⟨behind', hgives', hbehind⟩ :=
      ih _ (.value hname hvalue hassigned) _ _ hassigns hgives hwithinValue
    obtain ⟨after', hread', hafter⟩ :=
      ih _ (.valueAfter hname hvalue hassigned hgives) opened' _ _ hbehind hread hwithin
    have hvalue' := (startsWith_eq hnext ['='] (by decide)).trans hvalue
    exact ⟨after', (Reads.value hname' hvalue' hassigned' hgives' hread').leaves, hafter⟩

theorem mirrors_children
    (ih : ∀ called, Calls (.children opened name cursor) called → called.Mirrors L) :
    Mirrors L (.children opened name cursor) := by
  rintro opened' cursor' after hcursor h hwithin
  cases reads_children h with
  | childScript hscript hread =>
    have hwithinScript := Nat.le_trans hwithin hread.1
    obtain ⟨p', s', rfl, hnext⟩ := exists_next hcursor (Nat.le_trans hwithinScript hscript.1)
    obtain ⟨tokens', behind', hscript', hbehind⟩ :=
      (ih _ .childScript).embedded hnext hscript hwithinScript
    obtain ⟨after', hread', hafter⟩ :=
      ih _ (.childScriptAfter hscript) opened' _ _ hbehind hread hwithin
    exact ⟨after', (Reads.childScript hscript' hread').leaves, hafter⟩
  | closing hspacing hslash hread =>
    have hwithinNext := Nat.le_trans hwithin hread.1
    have hlt := remaining_of_startsWith hslash
    have hwithinStart := Nat.le_trans hwithinNext (Nat.le_of_lt hlt)
    obtain ⟨p', s', rfl, hnext⟩ := exists_next hcursor (Nat.le_trans hwithinStart hspacing.1)
    obtain ⟨start', hspacing', hstarts⟩ :=
      related_spacing hnext hspacing hwithinStart (Nat.zero_lt_of_lt hlt)
    obtain ⟨after', hread', hafter⟩ := related_closingTag
      (related_next_of_startsWith hstarts hslash hwithinNext) hread hwithin
    have hslash' := (startsWith_eq hstarts ['/'] (by decide)).trans hslash
    exact ⟨after', (Reads.closing hspacing' hslash' hread').leaves, hafter⟩
  | childElement hspacing hslash helement hread =>
    have hwithinElement := Nat.le_trans hwithin hread.1
    have hwithinStart := Nat.le_trans hwithinElement helement.1
    obtain ⟨p', s', rfl, hnext⟩ := exists_next hcursor (Nat.le_trans hwithinStart hspacing.1)
    obtain ⟨start', hspacing', hstarts⟩ := related_spacing hnext hspacing hwithinStart
      (Nat.zero_lt_of_lt (remaining_readElement_lt helement))
    obtain ⟨behind', helement', hbehind⟩ :=
      ih _ (.childElement hspacing hslash) _ _ hstarts helement hwithinElement
    obtain ⟨after', hread', hafter⟩ :=
      ih _ (.childElementAfter hspacing hslash helement) opened' _ _ hbehind hread hwithin
    have hslash' := (startsWith_eq hstarts ['/'] (by decide)).trans hslash
    exact ⟨after', (Reads.childElement hspacing' hslash' helement' hread').leaves, hafter⟩
  | childText hscript hopens hread =>
    obtain ⟨p', s', rfl, hnext⟩ := exists_next hcursor (Nat.le_trans hwithin hread.1)
    obtain ⟨after', hread', hafter⟩ :=
      ih _ (.childText hscript hopens) opened' _ _ hnext hread hwithin
    exact ⟨after', (Reads.childText hscript hopens hread').leaves, hafter⟩

/-- A reader does the same at both cursors if the readers that it calls do. -/
theorem mirrors_of_calls {reader : Reader}
    (ih : ∀ called, Calls reader called → called.Mirrors L) : reader.Mirrors L := by
  cases reader with
  | script => exact mirrors_script ih
  | lexeme => exact mirrors_lexeme ih
  | template => exact mirrors_template ih
  | element => exact mirrors_element ih
  | attributes => exact mirrors_attributes ih
  | attributeValue => exact mirrors_attributeValue ih
  | children => exact mirrors_children ih

/-- Every reader does the same at cursors in lockstep. -/
theorem mirrors (L : Lockstep) (reader : Reader) : reader.Mirrors L := by
  induction hweight : reader.weight using Nat.strongRecOn generalizing reader with
  | ind n ih =>
    apply mirrors_of_calls
    intro called hcall
    have hlt := weight_lt_of_calls hcall
    rw [hweight] at hlt
    exact ih _ hlt called rfl

end Step

end Reader

end RouteTable.Script
