import RouteTable.Proofs.Script.Balance
import RouteTable.Proofs.Script.Likeness

/-!
Comments between tokens. A comment in place of a space between two tokens leaves the tokens of a
source as they are, unless the space stands behind the name of a type parameter in front of which a
`<` has looked for the end of that name: behind a comment it does not find it.
-/

namespace RouteTable.Script

open Cursor

/-- Whether the text `rest` at the end of a source starts between two of its tokens, outside all
literals, templates, elements and comments. -/
def BetweenTokens (source : String) (rest : List Char) : Prop :=
  ∃ before opened cursor gap place, Reading source (.script false before opened cursor) ∧
    cursor.Leads gap place ∧ IsGap rest gap ∧ place.rest = rest

/-- Whether a source ends with a `<` where an operand may stand, a lone name, a space and a text
`rest` in which the type parameters go on. -/
def EndsParameter (source : String) (rest : List Char) : Prop :=
  ∃ before opened cursor freshLine place name,
    Reading source (.script false before opened cursor) ∧
      Gives (spacing cursor) freshLine place ∧ place.rest = '<' :: (name ++ ' ' :: rest) ∧
        awaitsOperand before = true ∧ isLoneName name = true ∧ continuesParameters rest = true

section Reading

variable {source : String} {before : List Token} {opened : List OpenBracket} {cursor : Cursor}

/-- A place between the tokens of a source is its start or stands behind another place and the next
token there. -/
theorem reading_induction
    {motive : ∀ before opened cursor, Reading source (.script false before opened cursor) → Prop}
    (start : motive [] [] (skipInterpreterLine (.start source)) .refl)
    (token : ∀ {before opened cursor token after stillOpened}
      (h : Reading source (.script false before opened cursor)), motive before opened cursor h →
        ∀ (htoken : ReadsToken false before opened cursor token after)
          (htrack : trackBrackets opened token = .ok stillOpened),
          motive (token :: before) stillOpened after (h.tail (.further htoken htrack)))
    (h : Reading source (.script false before opened cursor)) : motive before opened cursor h := by
  suffices hall : ∀ {reader} (hreading : Reading source reader) {before opened cursor}
      (hreader : reader = .script false before opened cursor),
      motive before opened cursor (hreader ▸ hreading) from hall h rfl
  intro reader hreading
  induction hreading with
  | refl =>
    intro before opened cursor hreader
    cases hreader
    exact start
  | tail hreading hcall ih =>
    intro before opened cursor hreader
    subst hreader
    cases hcall with
    | further htoken htrack => exact token hreading (ih rfl) htoken htrack

/-- The tokens of a source are those in front of a place and those that are read from there. -/
theorem readTokens_of_reading (h : Reading source (.script false before opened cursor)) :
    readTokens source = (Written.readOn before opened cursor).map (before.reverse ++ ·) := by
  induction h using reading_induction with
  | start =>
    rw [Written.readTokens_eq_readOn]
    cases Written.readOn [] [] (skipInterpreterLine (.start source)) <;> rfl
  | @token before opened cursor token after stillOpened _ ih htoken htrack =>
    rw [ih, Written.readOn, map_tokensFrom_of_readsToken htoken, htrack, Except.bind]
    simp only [List.reverse_cons, List.append_assoc, List.singleton_append]
    rw [Written.readOn]
    cases tokensFrom false (token :: before) stillOpened after <;> rfl

theorem readTokens_eq_ok_iff (h : Reading source (.script false before opened cursor))
    {tokens : List Token} :
    readTokens source = .ok tokens ↔ ∃ further last, tokens = before.reverse ++ further ∧
      Gives (tokensFrom false before opened cursor) further last := by
  rw [readTokens_of_reading h, Written.readOn]
  constructor
  · intro hread
    rcases hfurther : tokensFrom false before opened cursor with e | ⟨⟨further, last⟩, hle⟩
    · rw [hfurther] at hread
      cases hread
    · rw [hfurther] at hread
      cases hread
      exact ⟨further, last, rfl, hle, rfl⟩
  · rintro ⟨further, last, rfl, hle, hfurther⟩
    rw [hfurther]
    rfl

/-- The first ones of legible tokens are legible in front of the others. -/
theorem Written.AllLegible.of_append {rest : List Char} {first : List Written}
    (second : List Written) (h : AllLegible rest before cursor (first ++ second)) :
    AllLegible (text second ++ rest) before cursor first := by
  induction first generalizing before cursor with
  | nil => exact .nil
  | cons written others ih =>
    rw [List.cons_append] at h
    cases h with
    | cons hfirst hothers =>
      rw [text_append, List.append_assoc] at hfirst
      exact .cons hfirst (ih hothers)

/-- Reading a source comes to the place behind tokens that are written legibly. -/
theorem reading_of_allLegible {writtens : List Written} {rest : List Char} {openers : List Char}
    (h : Reading source (.script false before opened cursor))
    (hlegible : Written.AllLegible rest before cursor writtens)
    (hrest : cursor.rest = Written.text writtens ++ rest)
    (hnest : Written.nestAll (opened.map OpenBracket.opener) writtens = some openers) :
    ∃ stillOpened last, last.rest = rest ∧ Reading source
      (.script false ((Written.tokens cursor writtens).reverse ++ before) stillOpened last) := by
  induction hlegible generalizing opened with
  | nil => exact ⟨opened, _, hrest, h⟩
  | @cons before cursor written others hfirst _ ih =>
    have hsplit : cursor.rest =
        written.gap ++ (written.lexeme ++ (Written.text others ++ rest)) := by
      simpa using hrest
    obtain ⟨inner, hinner, hothersNest⟩ := Option.bind_eq_some_iff.1 hnest
    have htracked : ∃ middle, trackBrackets opened (written.token cursor) = .ok middle ∧
        middle.map OpenBracket.opener = inner := Written.trackBrackets_of_nest hinner
    obtain ⟨middle, htrack, hmiddle⟩ := htracked
    rw [← hmiddle] at hothersNest
    have htoken := Written.readsToken_of_legible hsplit hfirst opened
    obtain ⟨stillOpened, last, hlast, hreading⟩ :=
      ih (h.tail (.further htoken htrack)) (Written.rest_after hsplit) hothersNest
    refine ⟨stillOpened, last, hlast, ?_⟩
    rw [Written.tokens, List.reverse_cons, List.append_assoc, List.singleton_append]
    exact hreading

theorem leadsTo_of_reading (h : Reading source (.script false before opened cursor)) :
    (Cursor.start source).LeadsTo cursor := by
  induction h using reading_induction with
  | start => exact ⟨_, leads_skipInterpreterLine _⟩
  | token _ ih htoken _ =>
    obtain ⟨start, hlexeme, -, hlt, hread⟩ := htoken
    have hstart := ih.trans (leadsTo_of_spacing hlexeme.1)
    exact hstart.trans (Reader.passesText (.lexeme _ start) _ ⟨_, hlt, hread⟩)

end Reading

/-- Whether each `<` that reading a source comes to, before a token that ends in front of its last
`bound` characters, opens an element with either of two texts at the end. -/
def AnglesAlike (source : String) (t t' : List Char) (bound : Nat) : Prop :=
  ∀ before opened cursor freshLine place after u result hlt,
    Reading source (.script false before opened cursor) → Gives (spacing cursor) freshLine place →
      place.rest = '<' :: (u ++ t) → awaitsOperand before = true →
        readLexeme before place = .ok ⟨(result, after), hlt⟩ → bound ≤ after.remaining →
          opensElement ('<' :: (u ++ t')) = opensElement ('<' :: (u ++ t))

section Lockstep

variable {t t' front : List Char} {source source' : String} {bound : Nat} {before : List Token}
  {opened : List OpenBracket} {cursor : Cursor}

/-- Each place between the tokens of a source, up to a bound, has a corresponding one in a source
that starts alike. -/
theorem corresponds_of_reading (hends : Interchangeable t t') (hsource : source.toList = front ++ t)
    (hsource' : source'.toList = front ++ t') (hbound : t.length ≤ bound)
    (halike : AnglesAlike source t t' bound)
    (h : Reading source (.script false before opened cursor)) (hwithin : bound ≤ cursor.remaining) :
    ∃ before' opened' cursor', Reading source' (.script false before' opened' cursor') ∧
      before'.map shape = before.map shape ∧
        opened'.map OpenBracket.opener = opened.map OpenBracket.opener ∧
          Corresponds t t' cursor cursor' := by
  induction h using reading_induction with
  | start =>
    have hcursor : Corresponds t t' (.start source) (.start source') := ⟨front, hsource, hsource'⟩
    have hmark :=
      Lockstep.startsWith_eq (L := hends.lockstep) hcursor ['#', '!'] (by decide)
    refine ⟨[], [], _, .refl, rfl, rfl, ?_⟩
    rw [skipInterpreterLine] at hwithin
    rw [skipInterpreterLine, skipInterpreterLine, hmark]
    split
    · rename_i hline
      rw [if_pos hline] at hwithin
      exact (Lockstep.related_skipWhile (L := hends.lockstep) hcursor
        (Nat.le_trans hbound hwithin) (.inr (.inr rfl))).1
    · exact hcursor
  | @token before opened cursor token after stillOpened hreading ih htoken htrack =>
    obtain ⟨start, hlexeme, hposition, hlt, hread⟩ := htoken
    have hafterLt : after.remaining < start.remaining := hlt
    have hstartWithin : bound ≤ start.remaining := Nat.le_trans hwithin (Nat.le_of_lt hlt)
    obtain ⟨before', opened', cursor', hreading', hbefore, hopened, hcursor⟩ :=
      ih (Nat.le_trans hstartWithin hlexeme.1.1)
    obtain ⟨start', hspacing', hstart⟩ :=
      corresponds_spacing hends hcursor hlexeme.1 (Nat.le_trans hbound hstartWithin)
    have hopens : OpensAlike before start start' := by
      intro hhead hawaits
      obtain ⟨u, hu, hu'⟩ := hstart
      have hlength := congrArg List.length hu
      rw [List.length_append, ← remaining] at hlength
      rcases u with _ | ⟨c, u⟩
      · rw [List.length_nil] at hlength
        omega
      · rw [hu, List.cons_append, List.head?_cons, Option.some.injEq] at hhead
        subst hhead
        rw [hu, hu']
        exact halike _ _ _ _ _ _ u _ hlt hreading hlexeme.1 hu hawaits hread hwithin
    obtain ⟨token', after', htoken', hshape, hafter⟩ := Reader.readsToken_of_mirrors
      (Reader.mirrors hends.lockstep _) hbefore hopened hlexeme hread hspacing' hstart hopens
      (Nat.le_trans hbound hwithin)
    obtain ⟨stillOpened', htrack', hstill⟩ := trackBrackets_congr hopened hshape htrack
    exact ⟨_, _, after', hreading'.tail (.further htoken' htrack'), by simp [hshape, hbefore],
      hstill, hafter⟩

end Lockstep

section Angles

variable {source : String} {back : List Char}

/-- White space in front of a space is passed together with it. -/
theorem remaining_of_blanks {blanks : List Char} {p : Position} {freshLine : Bool}
    {start : Cursor} (hblanks : blanks.all Text.isBlank = true)
    (h : Gives (spacing ⟨p, blanks ++ ' ' :: back⟩) freshLine start) :
    start.remaining ≤ back.length := by
  obtain ⟨_, h⟩ := h
  have hspaces : (blanks ++ [' ']).all isSpacing = true := by
    have hspace : isSpacing ' ' = true := by decide
    rw [List.all_append, Bool.and_eq_true, List.all_eq_true]
    refine ⟨fun c hc => isSpacing_of_isBlank (List.all_eq_true.1 hblanks c hc), ?_⟩
    simp [hspace]
  have hparts : blanks ++ ' ' :: back = blanks ++ [' '] ++ back := by simp
  unfold spacing at h
  split at h
  · rename_i result hskip
    cases h
    obtain ⟨q, hbehind⟩ := advance_append p (blanks ++ [' ']) back
    rw [hparts, skipSpacing_spaces hspaces, hbehind] at hskip
    exact remaining_skipSpacing_le hskip
  · cases h

/-- The name of an element is not spacing. -/
theorem settled_of_isTagNamePart {c : Char} {s : List Char} (hc : isTagNamePart c = true) :
    settled (c :: s) = true := by
  have hspacing : isSpacing c = false := by
    rw [← Bool.not_eq_true]
    intro h
    rw [isTagNamePart_eq_false_of_isSpacing h] at hc
    cases hc
  have hslash : ¬ '/' = c := by
    rintro rfl
    exact absurd hc (by decide +kernel)
  simp [settled, hspacing, List.isPrefixOf, hslash]

/-- A text with nothing behind a name is a name, or none, with white space around it. -/
theorem parts_of_behindName {text : List Char} (h : behindName text = []) :
    ∃ blanks name further, text = blanks ++ (name ++ further) ∧
      blanks.all Text.isBlank = true ∧ name.all isTagNamePart = true ∧
        further.all Text.isBlank = true := by
  refine ⟨text.takeWhile Text.isBlank, (text.dropWhile Text.isBlank).takeWhile isTagNamePart,
    (text.dropWhile Text.isBlank).dropWhile isTagNamePart, ?_, List.all_takeWhile,
    List.all_takeWhile, ?_⟩
  · rw [List.takeWhile_append_dropWhile, List.takeWhile_append_dropWhile]
  · rw [behindName, List.dropWhile_eq_nil_iff] at h
    exact List.all_eq_true.2 h

/-- An element whose `<` has nothing but a name and a space behind it goes beyond the space. -/
theorem remaining_of_readElement {text : List Char} {cursor after : Cursor}
    (htext : behindName text = []) (hrest : cursor.rest = text ++ ' ' :: back)
    (h : Gives (readElement cursor) () after) : after.remaining ≤ back.length := by
  obtain ⟨blanks, name, further, rfl, hblanks, hname, hfurther⟩ := parts_of_behindName htext
  obtain ⟨p, s⟩ := cursor
  obtain rfl : s = _ := hrest
  obtain ⟨freshLine, start, hspacing, hcases⟩ := readElement_cases h
  rcases name with _ | ⟨c, name⟩
  · have hblank : (blanks ++ further).all Text.isBlank = true := by
      rw [List.all_append, hblanks, hfurther]
      rfl
    rw [List.nil_append] at hspacing
    have hstart := remaining_of_blanks hblank hspacing
    rcases hcases with ⟨-, hread⟩ | ⟨-, hread⟩
    · have hle := Reader.remaining_of_gives hread
      rw [remaining_next] at hle
      omega
    · have hle := Reader.remaining_of_gives hread
      have hskip := remaining_skipWhile_le isTagNamePart start
      omega
  · have hc : isTagNamePart c = true := List.all_eq_true.1 hname c List.mem_cons_self
    have hspaces : blanks.all isSpacing = true :=
      List.all_eq_true.2 fun d hd => isSpacing_of_isBlank (List.all_eq_true.1 hblanks d hd)
    have hparts : blanks ++ (c :: name ++ further) ++ ' ' :: back =
        blanks ++ (c :: (name ++ (further ++ ' ' :: back))) := by
      simp
    have hgap := Written.gapRead_spaces hspaces
      (settled_of_isTagNamePart (s := name ++ (further ++ ' ' :: back)) hc) p
    obtain ⟨q, hbehind⟩ := advance_append p blanks (c :: (name ++ (further ++ ' ' :: back)))
    rw [hbehind] at hgap
    rw [hparts] at hspacing
    obtain ⟨-, rfl⟩ := hspacing.unique (Written.spacing_of_skipSpacing hgap)
    rcases hcases with ⟨hend, -⟩ | ⟨-, hread⟩
    · obtain rfl : '>' = c := by simpa [startsWith, List.isPrefixOf] using hend
      exact absurd hc (by decide +kernel)
    · obtain ⟨ended, start, hspaced, hlt⟩ := spacing_of_readAttributes hread
      have hstop : (further ++ ' ' :: back).dropWhile isTagNamePart = further ++ ' ' :: back := by
        rcases further with _ | ⟨d, further⟩
        · exact List.dropWhile_cons_of_neg (by simp [isTagNamePart_space])
        · have hd := isSpacing_of_isBlank (List.all_eq_true.1 hfurther d List.mem_cons_self)
          exact List.dropWhile_cons_of_neg (by simp [isTagNamePart_eq_false_of_isSpacing hd])
      have hskip : (skipWhile isTagNamePart
          ⟨q, c :: (name ++ (further ++ ' ' :: back))⟩).rest = further ++ ' ' :: back := by
        rw [rest_skipWhile, ← List.cons_append,
          List.dropWhile_append_of_pos (List.all_eq_true.1 hname), hstop]
      rw [eq_of_rest hskip] at hspaced
      exact Nat.le_trans (Nat.le_of_lt hlt) (remaining_of_blanks hfurther hspaced)

/-- Away from the name of a type parameter, a comment changes nothing for a `<` in front of it. -/
theorem anglesAlike_of_not_endsParameter (h : ¬ EndsParameter source back) (rest : List Char) :
    AnglesAlike source (' ' :: back) (' ' :: '/' :: rest) (back.length + 1) := by
  intro before opened cursor freshLine place after u result hlt hreading hspacing hplace hawaits
    hread hwithin
  by_cases hu : behindName u = []
  · rw [opensElement_comment hu]
    cases hopens : opensElement ('<' :: (u ++ ' ' :: back)) with
    | true =>
      obtain ⟨p, s⟩ := place
      obtain rfl : s = _ := hplace
      rcases readLexeme_angle hawaits hread with ⟨-, -, helement⟩ | ⟨hpunctuator, -⟩
      · have hle := remaining_of_readElement hu rfl helement
        omega
      · rw [hopens] at hpunctuator
        cases hpunctuator
    | false =>
      by_contra hlone
      rw [Bool.not_eq_false] at hlone
      have hcontinues : continuesParameters back = true := by
        rw [opensElement_loneName hlone] at hopens
        simpa using hopens
      exact h ⟨before, opened, cursor, freshLine, place, u, hreading, hspacing, hplace, hawaits,
        hlone, hcontinues⟩
  · exact opensElement_append (.inr ⟨rfl, rfl⟩) hu

/-- In front of a `<`, every other one is decided by the text up to it. -/
theorem anglesAlike_of_angle {name t t' : List Char} (hends : Interchangeable t t')
    {before : List Token} {opened : List OpenBracket} {cursor place : Cursor} {freshLine : Bool}
    (h : Reading source (.script false before opened cursor))
    (hspacing : Gives (spacing cursor) freshLine place) (hplace : place.rest = '<' :: (name ++ t)) :
    AnglesAlike source t t' place.remaining := by
  intro before₁ opened₁ cursor₁ freshLine₁ place₁ after u result hlt hreading hspacing₁ hplace₁ _ _
    hwithin
  have hafter : after.remaining < place₁.remaining := hlt
  obtain ⟨passed, hpassed⟩ := (leadsTo_of_reading h).trans (leadsTo_of_spacing hspacing)
  obtain ⟨passed₁, hpassed₁⟩ := (leadsTo_of_reading hreading).trans (leadsTo_of_spacing hspacing₁)
  have hsuffix : '<' :: (name ++ t) <:+ u ++ t := by
    have hlength : ('<' :: (name ++ t)).length ≤ (u ++ t).length := by
      have hlong : place.remaining = ('<' :: (name ++ t)).length := congrArg List.length hplace
      have hlong₁ : place₁.remaining = (u ++ t).length + 1 := congrArg List.length hplace₁
      omega
    have hsource₁ : u ++ t <:+ source.toList := by
      refine ⟨passed₁ ++ ['<'], ?_⟩
      rw [List.append_assoc, List.singleton_append, ← hplace₁]
      exact hpassed₁.rest.symm
    refine List.suffix_of_suffix_length_le ⟨passed, ?_⟩ hsource₁ hlength
    rw [← hplace]
    exact hpassed.rest.symm
  obtain ⟨v, hv⟩ := hsuffix
  have hu : u = v ++ '<' :: name := by
    have hparts : v ++ '<' :: name ++ t = u ++ t := by
      rw [← hv, List.append_assoc]
      rfl
    exact (List.append_cancel_right hparts).symm
  have hmem : '<' ∈ u := by
    rw [hu]
    exact List.mem_append_right v List.mem_cons_self
  exact opensElement_append hends (behindName_ne_nil (by decide) (by decide +kernel) hmem)

end Angles

/-- Behind two gaps in which a line ends or does not end alike, the same text is left. -/
theorem spacing_of_isGap {rest gap gap' : List Char} (hgap : IsGap rest gap)
    (hgap' : IsGap rest gap') (hlines : gap'.any isLineTerminator = gap.any isLineTerminator)
    {p : Position} (p' : Position) {freshLine : Bool} {start : Cursor}
    (h : Gives (spacing ⟨p, gap ++ rest⟩) freshLine start) :
    ∃ start', Gives (spacing ⟨p', gap' ++ rest⟩) freshLine start' ∧
      Corresponds [] [] start start' := by
  obtain ⟨q, hq⟩ := skipSpacing_of_isGap hgap false p
  obtain ⟨q', hq'⟩ := skipSpacing_of_isGap hgap' false p'
  obtain ⟨_, h⟩ := h
  unfold spacing at h
  split at h
  · rename_i result hskip
    cases h
    rw [hq] at hskip
    rw [hlines] at hq'
    have hrest : Corresponds [] [] ⟨q, rest⟩ ⟨q', rest⟩ := corresponds_of_rest rfl
    obtain ⟨start', hskip', hstart⟩ :=
      corresponds_skipSpacing interchangeable_nil hrest hskip (Nat.zero_le _)
    exact ⟨start', Written.spacing_of_skipSpacing (hq'.trans hskip'), hstart⟩
  · cases h

section Comment

variable {front comment back : String} {tokens : List Token}

def commentGap (comment : List Char) : List Char :=
  ' ' :: '/' :: '*' :: (comment ++ '*' :: '/' :: [' '])

theorem toList_spaced : (front ++ " " ++ back).toList = front.toList ++ ' ' :: back.toList := by
  simp

theorem toList_commented : (front ++ " /*" ++ comment ++ "*/ " ++ back).toList =
    front.toList ++ (commentGap comment.toList ++ back.toList) := by
  simp [commentGap]

theorem isGap_commentGap {body rest : List Char} (hbody : ¬ ['*', '/'] <:+: body) :
    IsGap rest (commentGap body) :=
  .space (by decide) (.blockComment hbody (.space (by decide) .nil))

/-- Reading a source from the place of a space gives tokens of the same shapes as reading it with a
comment there. -/
theorem readTokens_comment (hread : readTokens (front ++ " " ++ back) = .ok tokens)
    (hplace : BetweenTokens (front ++ " " ++ back) (' ' :: back.toList))
    (hcomment : ¬ ['*', '/'] <:+: comment.toList)
    (hlines : comment.toList.any isLineTerminator = false)
    (hends : ¬ EndsParameter (front ++ " " ++ back) back.toList) :
    ∃ tokens', readTokens (front ++ " /*" ++ comment ++ "*/ " ++ back) = .ok tokens' ∧
      tokens'.map shape = tokens.map shape := by
  obtain ⟨before, opened, cursor, gap, place, hreading, hgap, hisGap, hrest⟩ := hplace
  have halike : AnglesAlike (front ++ " " ++ back) (' ' :: back.toList)
      (commentGap comment.toList ++ back.toList) (' ' :: back.toList).length :=
    anglesAlike_of_not_endsParameter hends _
  have hcursor : cursor.rest = gap ++ ' ' :: back.toList := by rw [hgap.rest, hrest]
  have hwithin : (' ' :: back.toList).length ≤ cursor.remaining := by
    rw [remaining, hcursor, List.length_append]
    exact Nat.le_add_left _ _
  obtain ⟨before', opened', cursor', hreading', hbefore, hopened, u, hu, hu'⟩ :=
    corresponds_of_reading (.inr ⟨rfl, rfl⟩) toList_spaced toList_commented (Nat.le_refl _) halike
      hreading hwithin
  obtain rfl : gap = u := List.append_cancel_right (hcursor.symm.trans hu)
  obtain ⟨p, rest⟩ := cursor
  obtain rfl : rest = gap ++ ' ' :: back.toList := hcursor
  obtain ⟨p', rest'⟩ := cursor'
  obtain rfl : rest' = gap ++ (commentGap comment.toList ++ back.toList) := hu'
  have hspaceGap : IsGap back.toList (gap ++ [' ']) := hisGap.append (.space (by decide) .nil)
  have hbehind : IsGap (commentGap comment.toList ++ back.toList) gap := hisGap.of_head? rfl
  have hcommentGap : IsGap back.toList (gap ++ commentGap comment.toList) :=
    hbehind.append (isGap_commentGap hcomment)
  have hsameLines : (gap ++ commentGap comment.toList).any isLineTerminator =
      (gap ++ [' ']).any isLineTerminator := by
    have hmarks : isLineTerminator ' ' = false ∧ isLineTerminator '/' = false ∧
        isLineTerminator '*' = false := by decide
    simp [commentGap, hmarks, hlines]
  obtain ⟨further, last, rfl, hfurther⟩ := (readTokens_eq_ok_iff hreading).1 hread
  obtain ⟨freshLine, start, hspacing, -⟩ := spacing_of_tokensFrom hfurther
  have hparts : gap ++ ' ' :: back.toList = gap ++ [' '] ++ back.toList := by simp
  have hspaced := hspacing
  rw [hparts] at hspaced
  obtain ⟨start', hspacing', hstart⟩ :=
    spacing_of_isGap hspaceGap hcommentGap hsameLines p' hspaced
  rw [List.append_assoc] at hspacing'
  obtain ⟨further', last', hfurther', hshapes⟩ :=
    gives_tokensFrom_of_spacing hbefore hopened hspacing hspacing' hstart hfurther
  refine ⟨_, (readTokens_eq_ok_iff hreading').2 ⟨further', last', rfl, hfurther'⟩, ?_⟩
  rw [List.map_append, List.map_append, List.map_reverse, List.map_reverse, hbefore, hshapes]

/-- A script that starts with a `<` where an operand may stand starts with an element or with a
punctuator. -/
theorem kind_of_angle {before further : List Token} {opened : List OpenBracket}
    {cursor last place : Cursor} {freshLine : Bool} {text : List Char}
    (h : Gives (tokensFrom false before opened cursor) further last)
    (hspacing : Gives (spacing cursor) freshLine place) (hplace : place.rest = '<' :: text)
    (hawaits : awaitsOperand before = true) :
    ∃ token others, further = token :: others ∧
      token.kind = if opensElement ('<' :: text) then .element else .punctuator := by
  obtain ⟨p, s⟩ := place
  obtain rfl : s = _ := hplace
  rcases tokensFrom_cases h with ⟨_, _, hspaced, -, -, hend⟩ |
    ⟨token, after, _, others, rfl, ⟨_, hlexeme, -, _, hread⟩, -, -⟩
  · obtain ⟨rfl, rfl⟩ := hspaced.unique hspacing
    rcases hend with ⟨-, hrest, -⟩ | ⟨hscript, -⟩
    · cases hrest
    · cases hscript
  · obtain ⟨-, rfl⟩ := hspacing.unique hlexeme.1
    refine ⟨token, others, rfl, ?_⟩
    rcases readLexeme_angle hawaits hread with ⟨hopens, hkind, -⟩ | ⟨hopens, hkind⟩
    · rw [hopens]
      exact hkind
    · rw [hopens]
      exact hkind

/-- Behind the name of a type parameter, a comment makes an element of what was none. -/
theorem readTokens_comment_ne (hread : readTokens (front ++ " " ++ back) = .ok tokens)
    (hends : EndsParameter (front ++ " " ++ back) back.toList) {tokens' : List Token}
    (hread' : readTokens (front ++ " /*" ++ comment ++ "*/ " ++ back) = .ok tokens') :
    tokens'.map shape ≠ tokens.map shape := by
  obtain ⟨before, opened, cursor, freshLine, place, name, hreading, hspacing, hplace, hawaits,
    hlone, hcontinues⟩ := hends
  have hsame : Interchangeable (' ' :: back.toList) (commentGap comment.toList ++ back.toList) :=
    .inr ⟨rfl, rfl⟩
  have halike := anglesAlike_of_angle hsame hreading hspacing hplace
  have hbound : (' ' :: back.toList).length ≤ place.remaining := by
    simp only [remaining, hplace, List.length_cons, List.length_append]
    omega
  obtain ⟨before', opened', cursor', hreading', hbefore, -, hcursor⟩ :=
    corresponds_of_reading hsame toList_spaced toList_commented hbound halike hreading hspacing.1
  obtain ⟨place', hspacing', u, hu, hu'⟩ := corresponds_spacing hsame hcursor hspacing hbound
  obtain rfl : u = '<' :: name := by
    have hparts : u ++ ' ' :: back.toList = '<' :: name ++ ' ' :: back.toList :=
      hu.symm.trans hplace
    exact List.append_cancel_right hparts
  have hplace' : place'.rest = '<' :: (name ++ (commentGap comment.toList ++ back.toList)) := hu'
  have hawaits' : awaitsOperand before' = true := by rw [awaitsOperand_congr hbefore, hawaits]
  obtain ⟨further, last, rfl, hfurther⟩ := (readTokens_eq_ok_iff hreading).1 hread
  obtain ⟨further', last', rfl, hfurther'⟩ := (readTokens_eq_ok_iff hreading').1 hread'
  obtain ⟨token, others, rfl, hkind⟩ := kind_of_angle hfurther hspacing hplace hawaits
  obtain ⟨token', others', rfl, hkind'⟩ := kind_of_angle hfurther' hspacing' hplace' hawaits'
  have hname : behindName name = [] := by
    simp only [isLoneName, Bool.and_eq_true, List.isEmpty_iff] at hlone
    exact hlone.2
  rw [opensElement_loneName hlone, hcontinues] at hkind
  have helement : opensElement ('<' :: (name ++ (commentGap comment.toList ++ back.toList))) =
      true :=
    (opensElement_comment hname _).trans hlone
  rw [helement] at hkind'
  intro hshapes
  rw [List.map_append, List.map_append, List.map_reverse, List.map_reverse, hbefore,
    List.append_right_inj, List.map_cons, List.map_cons, List.cons.injEq] at hshapes
  have hkinds : token'.kind = token.kind := congrArg Prod.fst hshapes.1
  rw [hkind, hkind'] at hkinds
  cases hkinds

/-- Comments between tokens are white space, up to one lookahead. A comment in place of a space
between two tokens leaves the kinds, the values and the line ends of all tokens as they are, exactly
if the space does not stand behind the name of a type parameter that a `<` in front of it has to
find the end of. -/
theorem readTokens_comment_iff (hread : readTokens (front ++ " " ++ back) = .ok tokens)
    (hplace : BetweenTokens (front ++ " " ++ back) (' ' :: back.toList))
    (hcomment : ¬ ['*', '/'] <:+: comment.toList)
    (hlines : comment.toList.any isLineTerminator = false) :
    (∃ tokens', readTokens (front ++ " /*" ++ comment ++ "*/ " ++ back) = .ok tokens' ∧
        tokens'.map shape = tokens.map shape) ↔
      ¬ EndsParameter (front ++ " " ++ back) back.toList := by
  constructor
  · rintro ⟨tokens', hread', hshapes⟩ hends
    exact readTokens_comment_ne hread hends hread' hshapes
  · exact readTokens_comment hread hplace hcomment hlines

end Comment

theorem mem_of_endsParameter {source : String} {rest : List Char}
    (h : EndsParameter source rest) : '<' ∈ source.toList := by
  obtain ⟨before, opened, cursor, freshLine, place, name, hreading, hspacing, hplace, -⟩ := h
  obtain ⟨passed, hpassed⟩ := (leadsTo_of_reading hreading).trans (leadsTo_of_spacing hspacing)
  have hsource : source.toList = passed ++ place.rest := hpassed.rest
  rw [hsource, hplace]
  exact List.mem_append_right passed List.mem_cons_self

/-- The tokens of `f(a,` as they are written. -/
def writtenArgument : List Written :=
  [.plain .name "" "f", .plain .punctuator "" "(", .plain .name "" "a", .plain .punctuator "" ","]

/-- The tokens of `f(a, b)` as they are written. -/
def writtenArguments : List Written :=
  writtenArgument ++ [.plain .name " " "b", .plain .punctuator "" ")"]

/-- A comment between two arguments of a call changes no token. -/
theorem readTokens_comment_iff_arguments :
    ∃ tokens tokens', readTokens ("f(a," ++ " " ++ "b)") = .ok tokens ∧
      readTokens ("f(a," ++ " /*" ++ "first" ++ "*/ " ++ "b)") = .ok tokens' ∧
        tokens'.map shape = tokens.map shape := by
  have hplain : Written.writesPlainly ("f(a," ++ " " ++ "b)") writtenArguments [] = true := by
    decide +kernel
  have hread := Written.readTokens_of_writesPlainly hplain
  have hlegible : Written.AllLegible (' ' :: "b)".toList) []
      (skipInterpreterLine (.start ("f(a," ++ " " ++ "b)"))) writtenArgument :=
    Written.allLegible_of_arePlain (by decide +kernel)
  obtain ⟨opened, last, hlast, hreading⟩ := reading_of_allLegible .refl hlegible rfl rfl
  have hplace : BetweenTokens ("f(a," ++ " " ++ "b)") (' ' :: "b)".toList) :=
    ⟨_, opened, last, [], last, hreading, .refl last, .nil, hlast⟩
  have hends : ¬ EndsParameter ("f(a," ++ " " ++ "b)") "b)".toList := fun h =>
    absurd (mem_of_endsParameter h) (by decide +kernel)
  have hcomment : ¬ ['*', '/'] <:+: "first".toList := by decide
  obtain ⟨tokens', hread', hshapes⟩ :=
    (readTokens_comment_iff hread hplace hcomment (by decide)).2 hends
  exact ⟨_, tokens', hread, hread', hshapes⟩

/-- The tokens of `x = <T` as they are written. -/
def writtenParameter : List Written :=
  [.plain .name "" "x", .plain .punctuator " " "=", .plain .punctuator " " "<",
    .plain .name "" "T"]

/-- The tokens of `x = <T ,>(a) => a` as they are written. -/
def writtenGeneric : List Written :=
  writtenParameter ++ [.plain .punctuator " " ",", .plain .punctuator "" ">",
    .plain .punctuator "" "(", .plain .name "" "a", .plain .punctuator "" ")",
    .plain .punctuator " " "=>", .plain .name " " "a"]

/-- Each token of `x = <T ,>(a) => a` is read for itself, the `<` since a `,` stands behind its
name. -/
theorem allLegible_writtenGeneric :
    Written.AllLegible [] [] (.start ("x = <T" ++ " " ++ ",>(a) => a")) writtenGeneric := by
  have hangle (before : List Token) : Written.Legible before writtenParameter[2]
      "T ,>(a) => a".toList :=
    legible_angle (Written.gapRead_spaces (by decide) (by decide)) (by decide +kernel) (by decide)
      before
  refine .cons (Written.legible_of_isPlain (by decide +kernel))
    (.cons (Written.legible_of_isPlain (by decide +kernel)) (.cons (hangle _) ?_))
  exact Written.allLegible_of_arePlain (by decide +kernel)

/-- With a comment in place of the space, the `<` of a generic function is read as an element. -/
theorem readTokens_generic_commented :
    ∃ tokens, readTokens ("x = <T" ++ " " ++ ",>(a) => a") = .ok tokens ∧
      BetweenTokens ("x = <T" ++ " " ++ ",>(a) => a") (' ' :: ",>(a) => a".toList) ∧
        ¬ ∃ tokens', readTokens ("x = <T" ++ " /*" ++ "" ++ "*/ " ++ ",>(a) => a") = .ok tokens' ∧
          tokens'.map shape = tokens.map shape := by
  have hread := Written.readTokens_text rfl (by decide +kernel) allLegible_writtenGeneric rfl
    (Written.gapRead_spaces rfl rfl)
  have hmark : Written.AllLegible (" <T ,>(a) => a".toList) [] (.start _) (writtenGeneric.take 2) :=
    Written.AllLegible.of_append (writtenGeneric.drop 2) allLegible_writtenGeneric
  have hname : Written.AllLegible (' ' :: ",>(a) => a".toList) [] (.start _) writtenParameter :=
    Written.AllLegible.of_append (writtenGeneric.drop 4) allLegible_writtenGeneric
  have hstart : Reading ("x = <T" ++ " " ++ ",>(a) => a")
      (.script false [] [] (.start ("x = <T" ++ " " ++ ",>(a) => a"))) := .refl
  obtain ⟨opened, last, hlast, hreading⟩ := reading_of_allLegible hstart hname rfl rfl
  have hplace : BetweenTokens ("x = <T" ++ " " ++ ",>(a) => a") (' ' :: ",>(a) => a".toList) :=
    ⟨_, opened, last, [], last, hreading, .refl last, .nil, hlast⟩
  refine ⟨_, hread, hplace, ?_⟩
  rintro ⟨tokens', hread', hshapes⟩
  obtain ⟨opened', ⟨p, s⟩, hbehind, hmarked⟩ := reading_of_allLegible hstart hmark rfl rfl
  obtain rfl : s = " <T ,>(a) => a".toList := hbehind
  have hgap : Written.GapRead [' '] "<T ,>(a) => a".toList :=
    Written.gapRead_spaces rfl (by decide)
  have hspacing := Written.spacing_of_skipSpacing (hgap p)
  have hends : EndsParameter ("x = <T" ++ " " ++ ",>(a) => a") ",>(a) => a".toList :=
    ⟨_, opened', _, _, _, ['T'], hmarked, hspacing, rfl, by decide +kernel, by decide +kernel,
      by decide +kernel⟩
  exact readTokens_comment_ne hread hends hread' hshapes

end RouteTable.Script
