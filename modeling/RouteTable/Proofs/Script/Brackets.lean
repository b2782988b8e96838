import RouteTable.Script.Tokens
import Mathlib.Data.List.Induction

/-!
Words of brackets. Tokens are properly nested if each opener among them is closed by a closer of its
own kind. Following the open brackets through tokens succeeds exactly on the beginnings of such
words, and what it leaves open are the openers that have no closer yet.
-/

namespace RouteTable.Script

def bracketPairs : List (String × String) :=
  [("(", ")"), ("[", "]"), ("\x7b", "\x7d")]

/-- Whether two tokens are an opener and the closer of its own kind. -/
structure IsPair (opener closer : Token) : Prop where
  opener_kind : opener.kind = .punctuator
  closer_kind : closer.kind = .punctuator
  values : (opener.value, closer.value) ∈ bracketPairs

/-- Tokens in which every opener is closed by the closer of its own kind. -/
inductive WellNested : List Token → Prop where
  | nil : WellNested []
  | plain {token : Token} {rest : List Token} (hopener : token.isOpener = false)
      (hcloser : token.isCloser = false) (h : WellNested rest) : WellNested (token :: rest)
  | group {opener closer : Token} {inner rest : List Token} (hpair : IsPair opener closer)
      (hinner : WellNested inner) (h : WellNested rest) :
      WellNested (opener :: inner ++ closer :: rest)

/-- Tokens that leave some openers without a closer, the innermost of these first. -/
inductive Opens : List Token → List Token → Prop where
  | nested {tokens : List Token} (h : WellNested tokens) : Opens tokens []
  | opener {before inner outer : List Token} {opener : Token} (h : Opens before outer)
      (hopener : opener.isOpener = true) (hinner : WellNested inner) :
      Opens (before ++ opener :: inner) (opener :: outer)

/-- Whether a token is the innermost bracket that tokens leave open. -/
def LeavesOpen (tokens : List Token) (opener : Token) : Prop :=
  ∃ before inner, tokens = before ++ opener :: inner ∧ opener.isOpener = true ∧ WellNested inner

/-- Whether tokens are the beginning of properly nested ones. -/
def StartsNested (tokens : List Token) : Prop :=
  ∃ rest, WellNested (tokens ++ rest)

def Token.mark (token : Token) : Char :=
  token.value.toList.headD ' '

/-- An opener as it is kept while it is open. -/
def Token.bracket (token : Token) : OpenBracket :=
  ⟨token.mark, token.position⟩

section Pairs

variable {opener closer : Token}

theorem IsPair.isOpener (h : IsPair opener closer) : opener.isOpener = true := by
  have hvalues := h.values
  simp only [bracketPairs, List.mem_cons, Prod.mk.injEq, List.not_mem_nil, or_false] at hvalues
  rcases hvalues with ⟨hvalue, -⟩ | ⟨hvalue, -⟩ | ⟨hvalue, -⟩
  all_goals simp [Token.isOpener, h.opener_kind, hvalue]

theorem IsPair.isCloser (h : IsPair opener closer) : closer.isCloser = true := by
  have hvalues := h.values
  simp only [bracketPairs, List.mem_cons, Prod.mk.injEq, List.not_mem_nil, or_false] at hvalues
  rcases hvalues with ⟨-, hvalue⟩ | ⟨-, hvalue⟩ | ⟨-, hvalue⟩
  all_goals simp [Token.isCloser, h.closer_kind, hvalue]

/-- Two brackets are a pair exactly if the opener is the one that the closer closes. -/
theorem isPair_iff (hopener : opener.isOpener = true) (hcloser : closer.isCloser = true) :
    IsPair opener closer ↔ opener.mark = openerOf closer.value := by
  simp only [Token.isOpener, Token.isCloser, Bool.and_eq_true, Bool.or_eq_true,
    beq_iff_eq] at hopener hcloser
  obtain ⟨hopenerKind, hopenerValue⟩ := hopener
  obtain ⟨hcloserKind, hcloserValue⟩ := hcloser
  have hvalues : (opener.value, closer.value) ∈ bracketPairs ↔
      opener.mark = openerOf closer.value := by
    rw [Token.mark]
    rcases hopenerValue with (hopener | hopener) | hopener <;>
      rcases hcloserValue with (hcloser | hcloser) | hcloser <;>
      rw [hopener, hcloser] <;> decide
  exact ⟨fun h => hvalues.1 h.values, fun h => ⟨hopenerKind, hcloserKind, hvalues.2 h⟩⟩

/-- Every opener has a closer. -/
theorem exists_isPair (hopener : opener.isOpener = true) : ∃ closer, IsPair opener closer := by
  simp only [Token.isOpener, Bool.and_eq_true, Bool.or_eq_true, beq_iff_eq] at hopener
  obtain ⟨hkind, hvalue⟩ := hopener
  have hpaired : ∃ value, (opener.value, value) ∈ bracketPairs := by
    rcases hvalue with (hvalue | hvalue) | hvalue
    · exact ⟨")", by rw [hvalue]; decide⟩
    · exact ⟨"]", by rw [hvalue]; decide⟩
    · exact ⟨"\x7d", by rw [hvalue]; decide⟩
  obtain ⟨value, hvalue⟩ := hpaired
  exact ⟨⟨.punctuator, value, opener.position, false⟩, hkind, rfl, hvalue⟩

end Pairs

section Tracking

variable {token : Token} {opened : List OpenBracket}

theorem trackBrackets_opener (h : token.isOpener = true) :
    trackBrackets opened token = .ok (token.bracket :: opened) := by
  simp only [trackBrackets, h, if_true, Token.bracket, Token.mark]

theorem trackBrackets_plain (hopener : token.isOpener = false)
    (hcloser : token.isCloser = false) : trackBrackets opened token = .ok opened := by
  simp [trackBrackets, hopener, hcloser]

theorem isOpener_of_isCloser (h : token.isCloser = true) : token.isOpener = false := by
  simp only [Token.isCloser, Bool.and_eq_true, Bool.or_eq_true, beq_iff_eq] at h
  rcases h with ⟨hkind, (hvalue | hvalue) | hvalue⟩
  all_goals simp [Token.isOpener, hvalue]

theorem trackBrackets_unopened (h : token.isCloser = true) :
    trackBrackets [] token = .error ⟨token.position, .unopened token.mark⟩ := by
  simp [trackBrackets, isOpener_of_isCloser h, h, Token.mark]

theorem trackBrackets_pair {opener : Token} (h : IsPair opener token) :
    trackBrackets (opener.bracket :: opened) token = .ok opened := by
  have hcloser := h.isCloser
  have hmark := (isPair_iff h.isOpener hcloser).1 h
  simp [trackBrackets, isOpener_of_isCloser hcloser, hcloser, Token.bracket, hmark]

theorem trackBrackets_mismatched {opener : Token} (hopener : opener.isOpener = true)
    (hcloser : token.isCloser = true) (h : ¬ IsPair opener token) :
    trackBrackets (opener.bracket :: opened) token =
      .error ⟨token.position, .mismatched token.mark opener.mark opener.position⟩ := by
  rw [isPair_iff hopener hcloser] at h
  rw [trackBrackets, if_neg (by simp [isOpener_of_isCloser hcloser]), if_pos hcloser]
  exact if_neg (by simpa [Token.bracket] using h)

end Tracking

/-- The brackets that are open after some tokens, the innermost first. -/
def trackAll (opened : List OpenBracket) (tokens : List Token) :
    Except LexicalError (List OpenBracket) :=
  tokens.foldlM trackBrackets opened

section Words

variable {tokens rest : List Token} {opened middle : List OpenBracket}

theorem trackAll_cons {token : Token} (h : trackBrackets opened token = .ok middle) :
    trackAll opened (token :: rest) = trackAll middle rest := by
  rw [trackAll, List.foldlM_cons, h]
  rfl

theorem trackAll_append (h : trackAll opened tokens = .ok middle) :
    trackAll opened (tokens ++ rest) = trackAll middle rest := by
  rw [trackAll, List.foldlM_append]
  rw [trackAll] at h
  rw [h]
  rfl

theorem exists_trackAll_of_append {last : List OpenBracket}
    (h : trackAll opened (tokens ++ rest) = .ok last) :
    ∃ middle, trackAll opened tokens = .ok middle ∧ trackAll middle rest = .ok last := by
  cases htokens : trackAll opened tokens with
  | error e =>
    rw [trackAll] at h htokens
    rw [List.foldlM_append, htokens] at h
    cases h
  | ok middle =>
    rw [trackAll_append htokens] at h
    exact ⟨middle, rfl, h⟩

theorem trackAll_singleton (opened : List OpenBracket) (token : Token) :
    trackAll opened [token] = trackBrackets opened token := by
  rw [trackAll, List.foldlM_cons]
  cases trackBrackets opened token <;> rfl

theorem WellNested.append {first second : List Token} (hfirst : WellNested first)
    (hsecond : WellNested second) : WellNested (first ++ second) := by
  induction hfirst with
  | nil => exact hsecond
  | plain hopener hcloser h ih => exact .plain hopener hcloser ih
  | @group opener closer inner rest hpair hinner h ihInner ih =>
    have hgroup := WellNested.group hpair hinner ih
    simpa using hgroup

theorem wellNested_iff_opens : WellNested tokens ↔ Opens tokens [] := by
  constructor
  · exact .nested
  · rintro (h | _)
    exact h

theorem Opens.append {openers word : List Token} (h : Opens tokens openers)
    (hword : WellNested word) : Opens (tokens ++ word) openers := by
  cases h with
  | nested h => exact .nested (h.append hword)
  | opener h hopener hinner =>
    rw [List.append_assoc, List.cons_append]
    exact .opener h hopener (hinner.append hword)

/-- Properly nested tokens leave the open brackets as they are. -/
theorem trackAll_of_wellNested (h : WellNested tokens) (opened : List OpenBracket) :
    trackAll opened tokens = .ok opened := by
  induction h generalizing opened with
  | nil => rfl
  | plain hopener hcloser h ih =>
    rw [trackAll_cons (trackBrackets_plain hopener hcloser)]
    exact ih opened
  | group hpair hinner h ihInner ih =>
    rw [List.cons_append, trackAll_cons (trackBrackets_opener hpair.isOpener),
      trackAll_append (ihInner _), trackAll_cons (trackBrackets_pair hpair)]
    exact ih opened

/-- What is followed as open are the openers without a closer. -/
theorem trackAll_of_opens {openers : List Token} (h : Opens tokens openers) :
    trackAll [] tokens = .ok (openers.map Token.bracket) := by
  induction h with
  | nested h => exact trackAll_of_wellNested h []
  | opener h hopener hinner ih =>
    rw [trackAll_append ih, trackAll_cons (trackBrackets_opener hopener)]
    exact trackAll_of_wellNested hinner _

theorem opens_snoc {openers : List Token} {token : Token} (h : Opens tokens openers)
    (htrack : trackBrackets (openers.map Token.bracket) token = .ok opened) :
    ∃ further, Opens (tokens ++ [token]) further ∧ further.map Token.bracket = opened := by
  by_cases hopener : token.isOpener = true
  · rw [trackBrackets_opener hopener] at htrack
    cases htrack
    exact ⟨token :: openers, .opener h hopener .nil, rfl⟩
  · by_cases hcloser : token.isCloser = true
    · cases h with
      | nested h =>
        rw [List.map_nil, trackBrackets_unopened hcloser] at htrack
        cases htrack
      | @opener before inner outer opener h hopens hinner =>
        rw [List.map_cons] at htrack
        by_cases hpair : IsPair opener token
        · rw [trackBrackets_pair hpair] at htrack
          cases htrack
          have hgroup := h.append (.group hpair hinner .nil)
          exact ⟨outer, by simpa using hgroup, rfl⟩
        · rw [trackBrackets_mismatched hopens hcloser hpair] at htrack
          cases htrack
    · rw [Bool.not_eq_true] at hopener hcloser
      rw [trackBrackets_plain hopener hcloser] at htrack
      cases htrack
      exact ⟨openers, h.append (.plain hopener hcloser .nil), rfl⟩

/-- Tokens through which the open brackets can be followed leave these open. -/
theorem opens_of_trackAll (h : trackAll [] tokens = .ok opened) :
    ∃ openers, Opens tokens openers ∧ openers.map Token.bracket = opened := by
  -- From the back, since the last token is followed with the brackets that those before it leave.
  induction tokens using List.reverseRecOn generalizing opened with
  | nil =>
    cases h
    exact ⟨[], .nested .nil, rfl⟩
  | append_singleton tokens token ih =>
    obtain ⟨middle, htokens, htoken⟩ := exists_trackAll_of_append h
    obtain ⟨openers, hopens, hmiddle⟩ := ih htokens
    rw [trackAll_singleton, ← hmiddle] at htoken
    exact opens_snoc hopens htoken

theorem wellNested_iff_trackAll : WellNested tokens ↔ trackAll [] tokens = .ok [] := by
  constructor
  · intro h
    exact trackAll_of_wellNested h []
  · intro h
    obtain ⟨openers, hopens, hnone⟩ := opens_of_trackAll h
    cases List.map_eq_nil_iff.1 hnone
    exact wellNested_iff_opens.2 hopens

/-- A word stays properly nested where another such word is put into it. -/
theorem WellNested.insert {first word second : List Token} (h : WellNested (first ++ second))
    (hword : WellNested word) : WellNested (first ++ (word ++ second)) := by
  rw [wellNested_iff_trackAll] at h ⊢
  obtain ⟨middle, hfirst, hsecond⟩ := exists_trackAll_of_append h
  rw [trackAll_append hfirst, trackAll_append (trackAll_of_wellNested hword middle)]
  exact hsecond

theorem startsNested_of_opens {openers : List Token} (h : Opens tokens openers) :
    StartsNested tokens := by
  induction h with
  | nested h => exact ⟨[], by rwa [List.append_nil]⟩
  | opener h hopener hinner ih =>
    obtain ⟨rest, hrest⟩ := ih
    obtain ⟨closer, hpair⟩ := exists_isPair hopener
    have hinsert := hrest.insert (.group hpair hinner .nil)
    exact ⟨closer :: rest, by simpa using hinsert⟩

/-- The open brackets can be followed through the beginnings of properly nested words alone. -/
theorem startsNested_iff_trackAll :
    StartsNested tokens ↔ ∃ opened, trackAll [] tokens = .ok opened := by
  constructor
  · rintro ⟨rest, hrest⟩
    rw [wellNested_iff_trackAll] at hrest
    obtain ⟨opened, hopened, -⟩ := exists_trackAll_of_append hrest
    exact ⟨opened, hopened⟩
  · rintro ⟨opened, hopened⟩
    obtain ⟨openers, hopens, -⟩ := opens_of_trackAll hopened
    exact startsNested_of_opens hopens

/-- The innermost open bracket is the last one that was opened and is still open. -/
theorem leavesOpen_iff (h : trackAll [] tokens = .ok opened) {opener : Token} :
    LeavesOpen tokens opener ↔
      ∃ openers, Opens tokens (opener :: openers) ∧
        opened = (opener :: openers).map Token.bracket := by
  constructor
  · rintro ⟨before, inner, rfl, hopener, hinner⟩
    obtain ⟨outer, hbefore, hrest⟩ := exists_trackAll_of_append h
    rw [trackAll_cons (trackBrackets_opener hopener), trackAll_of_wellNested hinner] at hrest
    cases hrest
    obtain ⟨openers, hopens, rfl⟩ := opens_of_trackAll hbefore
    exact ⟨openers, .opener hopens hopener hinner, rfl⟩
  · rintro ⟨openers, hopens, -⟩
    cases hopens with
    | @opener before inner outer opener hbefore hopener hinner =>
      exact ⟨before, inner, rfl, hopener, hinner⟩

end Words

end RouteTable.Script
