import RouteTable.Proofs.Exports.TypeArguments
import RouteTable.Proofs.Exports.Concatenation
import RouteTable.Proofs.Exports.Declarations

/-!
Angle brackets in the initializers of exported declarations. Behind a name an angle bracket starts a
list of type arguments if there is one, and its commas are passed with it. Any other angle bracket
compares, so that the next comma outside of brackets ends the declarator.

Taking a list of type arguments out of an initializer makes no difference to what is behind it. One
place moves over tokens that have the list behind a name, another over those without it. Both pass
the same in front of the list. It is then passed whole, by itself or within a group or a longer
list, and both go on alike behind it, unless an angle bracket stands there, which would follow the
name.
-/

namespace RouteTable.Exports

open Script

def StartsList (tokens : List Token) : Prop :=
  ∃ list rest, IsTypeArguments list ∧ tokens = list ++ rest

/-- Tokens in front of others, with a name right before them or without. They are clear of stops but
for angle brackets: a list of type arguments may stand behind a name, and a bracket that starts no
list, or that has no name before it, compares. -/
inductive ClearBefore (stops : Token → Bool) (behind : List Token) : Bool → List Token → Prop where
  | nil {named : Bool} : ClearBefore stops behind named []
  | plain {named : Bool} {token : Token} {rest : List Token} (hopener : token.isOpener = false)
      (hcloser : token.isCloser = false) (hclear : stops token = false)
      (h : ClearBefore stops behind token.isAnyName rest) :
      ClearBefore stops behind named (token :: rest)
  | group {named : Bool} {opener closer : Token} {inner rest : List Token}
      (hopener : opener.isOpener = true) (hinner : Balanced inner)
      (hcloser : closer.isCloser = true) (h : ClearBefore stops behind false rest) :
      ClearBefore stops behind named (opener :: inner ++ closer :: rest)
  | arguments {list rest : List Token} (hlist : IsTypeArguments list)
      (h : ClearBefore stops behind false rest) : ClearBefore stops behind true (list ++ rest)
  | compares {named : Bool} {token : Token} {rest : List Token}
      (hangle : token.isPunctuator "<" = true)
      (hnone : named = true → ¬ StartsList (token :: (rest ++ behind)))
      (h : ClearBefore stops behind false rest) : ClearBefore stops behind named (token :: rest)

/-- A declarator, by its parts, and the mark behind it. -/
structure DeclaratorParts where
  pattern : List Token
  asserted : List Token
  annotated : List Token
  initialized : List Token
  mark : Token

namespace DeclaratorParts

def tail (parts : DeclaratorParts) : List Token :=
  parts.asserted ++ (parts.annotated ++ parts.initialized)

def tokens (parts : DeclaratorParts) : List Token :=
  parts.pattern ++ (parts.tail ++ [parts.mark])

/-- Whether the parts are those of a declarator in front of some tokens, and which names it
binds. -/
structure Declares (parts : DeclaratorParts) (names : List String) (behind : List Token) :
    Prop where
  binds : Binds .pattern parts.pattern names
  asserted : Optionally "!" (· = []) parts.asserted
  annotated : Optionally ":" (Clear stopsType) parts.annotated
  initialized :
    Optionally "=" (ClearBefore stopsInitializer (parts.mark :: behind) false) parts.initialized

end DeclaratorParts

/-- Declarators with commas between them and a semicolon behind the last, in front of some tokens,
and the names that they bind, in order. -/
inductive Declaration (behind : List Token) : List DeclaratorParts → List String → Prop where
  | last {parts : DeclaratorParts} {names : List String} (h : parts.Declares names behind)
      (hmark : parts.mark.isPunctuator ";" = true) : Declaration behind [parts] names
  | more {parts : DeclaratorParts} {others : List DeclaratorParts} {names more : List String}
      (h : parts.Declares names (others.flatMap DeclaratorParts.tokens ++ behind))
      (hmark : parts.mark.isPunctuator "," = true) (hothers : Declaration behind others more) :
      Declaration behind (parts :: others) (names ++ more)

section Clearing

variable {ends stops : Token → Bool} {behind tokens : List Token} {named : Bool}

theorem endsDefault_of_angle {token : Token} (hangle : token.isPunctuator "<" = true) :
    endsDefault token = false := by
  have hplain := notBracket_of_isPunctuator hangle (by decide)
  have hcomma := isPunctuator_eq_false hangle "," (by decide)
  rw [endsDefault, hcomma, hplain.2]
  rfl

theorem endsInitializer_of_angle {token : Token} (hangle : token.isPunctuator "<" = true) :
    endsInitializer token = false := by
  have hstatement := opensStatement_of_punctuator (kind_of_isPunctuator hangle).1
  have hsemicolon := isPunctuator_eq_false hangle ";" (by decide)
  rw [endsInitializer, endsDefault_of_angle hangle, hstatement, hsemicolon]
  rfl

/-- Behind a name, what is found tells whether a list starts. -/
theorem startsList_iff {token : Token} {rest : List Token} (hangle : token.isPunctuator "<" = true)
    {previous : Option Token} (hnamed : previous.any Token.isAnyName = true) :
    StartsList (token :: rest) ↔ (typeArguments? ⟨previous, token :: rest⟩).isSome = true := by
  have hplace : Place.isPunctuator ⟨previous, token :: rest⟩ "<" = true := hangle
  rw [Option.isSome_iff_exists]
  constructor
  · rintro ⟨list, behind, hlist, hrest⟩
    exact ⟨_, (typeArguments?_eq_some_iff hnamed hplace).2 ⟨list, behind, hlist, hrest, rfl⟩⟩
  · rintro ⟨last, hlast⟩
    obtain ⟨list, behind, hlist, hrest, -⟩ := (typeArguments?_eq_some_iff hnamed hplace).1 hlast
    exact ⟨list, behind, hlist, hrest⟩

theorem typeArguments?_eq_none {token : Token} {rest : List Token}
    (hangle : token.isPunctuator "<" = true) {previous : Option Token}
    (hnone : previous.any Token.isAnyName = true → ¬ StartsList (token :: rest)) :
    typeArguments? ⟨previous, token :: rest⟩ = none := by
  cases hnamed : previous.any Token.isAnyName with
  | false => rw [typeArguments?, if_neg (by simp [hnamed])]
  | true =>
    rw [← Option.not_isSome_iff_eq_none, ← startsList_iff hangle hnamed]
    exact hnone hnamed

/-- What is clear of stops but for angle brackets is passed as part of an expression. -/
theorem passExpression_clearBefore (hstops : EndsAtStops ends stops)
    (hangles : ∀ token, token.isPunctuator "<" = true → ends token = false)
    (h : ClearBefore stops behind named tokens) {previous : Option Token}
    (hnamed : previous.any Token.isAnyName = named) :
    passExpression ends ⟨previous, tokens ++ behind⟩ =
      passExpression ends ⟨lastOf previous tokens, behind⟩ := by
  induction h generalizing previous with
  | nil => rfl
  | @plain named token rest hopener hcloser hclear h ih =>
    have hone : Clear stops [token] := .plain hopener hcloser hclear .nil
    rw [List.cons_append, lastOf_cons, ← ih rfl]
    exact passExpression_clear hstops hone previous
  | @group named opener closer inner rest hopener hinner hcloser h ih =>
    have hone : Clear stops (opener :: inner ++ [closer]) :=
      .group hopener hinner hcloser .nil
    have hplain : (some closer).any Token.isAnyName = false := by
      simp only [Token.isCloser, Bool.and_eq_true, beq_iff_eq] at hcloser
      simp [Token.isAnyName, hcloser.1]
    have htokens : opener :: inner ++ closer :: rest = (opener :: inner ++ [closer]) ++ rest := by
      simp
    have hlast : lastOf previous (opener :: inner ++ [closer]) = some closer := by simp
    rw [htokens, lastOf_append, hlast, ← ih hplain, ← hlast, List.append_assoc]
    exact passExpression_clear hstops hone previous
  | @arguments list rest hlist h ih =>
    obtain ⟨angle, inner, rfl, hangle, hinner⟩ := hlist.cases
    have hplain : (lastOf previous (angle :: inner)).any Token.isAnyName = false := by
      obtain ⟨closer, hlast, hcloser⟩ := lastOf_closesAngles hinner (some angle)
      rw [lastOf_cons, hlast]
      simp [Token.isAnyName, (closedAngles_ne_zero hcloser).1]
    have hfound := typeArguments?_list hlist hnamed (rest ++ behind)
    rw [List.append_assoc, lastOf_append, ← ih hplain]
    rw [List.cons_append] at hfound ⊢
    rw [passExpression_angle hangle (hangles _ hangle), hfound]
    rfl
  | @compares named token rest hangle hnone h ih =>
    have hfound : typeArguments? ⟨previous, token :: (rest ++ behind)⟩ = none :=
      typeArguments?_eq_none hangle fun hbefore => hnone (hnamed.symm.trans hbefore)
    have hplain : (some token).any Token.isAnyName = false := isAnyName_of_isPunctuator hangle
    rw [List.cons_append, passExpression_angle hangle (hangles _ hangle), hfound, lastOf_cons,
      ← ih hplain]
    rfl

/-- A default is passed up to the comma or the bracket behind it. -/
theorem passDefault_clearBefore {assign : Token} (hassign : assign.isPunctuator "=" = true)
    (h : ClearBefore stopsDefault behind false tokens)
    (hbehind : StartsWith [",", "\x7d", "]"] behind) :
    passDefault ⟨some assign, tokens ++ behind⟩ = ⟨lastOf (some assign) tokens, behind⟩ := by
  have hplain : (some assign).any Token.isAnyName = false := isAnyName_of_isPunctuator hassign
  rw [passDefault, passExpression_clearBefore endsAtStops_default (fun _ => endsDefault_of_angle) h
    hplain]
  exact passDefault_append .nil hbehind _

/-- An initializer is passed up to the comma or the semicolon behind it. -/
theorem passInitializer_clearBefore {assign : Token} (hassign : assign.isPunctuator "=" = true)
    (h : ClearBefore stopsInitializer behind false tokens)
    (hbehind : StartsWith [",", ";"] behind) :
    passInitializer ⟨some assign, tokens ++ behind⟩ = ⟨lastOf (some assign) tokens, behind⟩ := by
  have hplain : (some assign).any Token.isAnyName = false := isAnyName_of_isPunctuator hassign
  rw [passInitializer, passExpression_clearBefore endsAtStops_initializer
    (fun _ => endsInitializer_of_angle) h hplain]
  exact passInitializer_append .nil hbehind _

end Clearing

section Declarations

variable {parts : DeclaratorParts} {names : List String} {behind : List Token}

theorem DeclaratorParts.tokens_append (parts : DeclaratorParts) (behind : List Token) :
    parts.tokens ++ behind = parts.pattern ++ (parts.tail ++ parts.mark :: behind) := by
  simp [DeclaratorParts.tokens]

/-- The pattern of a declarator is read. -/
theorem DeclaratorParts.Declares.reads (h : parts.Declares names behind) (previous : Option Token) :
    Reads (bindingTarget ⟨previous, parts.tokens ++ behind⟩) names
      ⟨lastOf previous parts.pattern, parts.tail ++ parts.mark :: behind⟩ := by
  rw [DeclaratorParts.tokens_append]
  exact reads_of_binds h.binds previous _ (by simp)

/-- The initializer of a declarator starts where its annotation ends. -/
theorem DeclaratorParts.Declares.passOptionalType (h : parts.Declares names behind)
    (hmark : StartsWith [",", ";"] (parts.mark :: behind)) (previous : Option Token) :
    passOptionalType ⟨previous, parts.tail ++ parts.mark :: behind⟩ =
      ⟨lastOf previous (parts.asserted ++ parts.annotated),
        parts.initialized ++ parts.mark :: behind⟩ := by
  have hpassed := passOptionalType_append h.asserted h.annotated (h.initialized.startsWith hmark)
    previous
  rw [DeclaratorParts.tail, List.append_assoc, List.append_assoc]
  exact hpassed

/-- What follows the pattern of a declarator is passed up to the mark. -/
theorem DeclaratorParts.Declares.passDeclaratorTail (h : parts.Declares names behind)
    (hmark : StartsWith [",", ";"] (parts.mark :: behind)) (previous : Option Token) :
    passDeclaratorTail ⟨previous, parts.tail ++ parts.mark :: behind⟩ =
      ⟨lastOf previous parts.tail, parts.mark :: behind⟩ := by
  rw [passDeclaratorTail_eq, h.passOptionalType hmark]
  obtain ⟨pattern, asserted, annotated, initialized, mark⟩ := parts
  have hinitialized :
      Optionally "=" (ClearBefore stopsInitializer (mark :: behind) false) initialized :=
    h.initialized
  rw [DeclaratorParts.tail, ← List.append_assoc, lastOf_append previous (asserted ++ annotated)]
  cases hinitialized with
  | absent =>
    have hout := hmark.isPunctuator_eq_false "=" (by decide)
    rw [List.nil_append, hout, if_neg Bool.false_ne_true, lastOf_nil]
  | @present assign value hassign hvalue =>
    have hat : ∀ previous, Place.isPunctuator ⟨previous, assign :: (value ++ mark :: behind)⟩ "=" =
        true := fun _ => hassign
    rw [List.cons_append, if_pos (hat _), lastOf_cons]
    exact passInitializer_clearBefore hassign hvalue hmark

/-- A declaration is read up to the semicolon behind it. -/
theorem reads_declaration {list : List DeclaratorParts} (h : Declaration behind list names)
    (previous : Option Token) :
    ∃ before semicolon, semicolon.isPunctuator ";" = true ∧
      Reads (declarators ⟨previous, list.flatMap DeclaratorParts.tokens ++ behind⟩) names
        ⟨before, semicolon :: behind⟩ := by
  induction h generalizing previous with
  | @last parts names h hmark =>
    have htail := h.passDeclaratorTail (startsWith_cons hmark (by simp) behind)
      (lastOf previous parts.pattern)
    have hread := reads_lastDeclarator (h.reads previous)
      (by rw [htail]; exact isPunctuator_eq_false hmark "," (by decide))
    rw [htail] at hread
    refine ⟨lastOf (lastOf previous parts.pattern) parts.tail, parts.mark, hmark, ?_⟩
    rw [List.flatMap_singleton]
    exact hread
  | @more parts others names more h hmark hothers ih =>
    obtain ⟨before, semicolon, hsemicolon, hlast⟩ := ih (some parts.mark)
    have htail := h.passDeclaratorTail (startsWith_cons hmark (by simp) _)
      (lastOf previous parts.pattern)
    have hread := reads_moreDeclarators (h.reads previous) (by rw [htail]; exact hmark)
      (by rw [htail]; exact hlast)
    refine ⟨before, semicolon, hsemicolon, ?_⟩
    rw [List.flatMap_cons, List.append_assoc]
    exact hread

/-- The first declarator of a list, and the others if there are any. -/
theorem Declaration.head {others : List DeclaratorParts}
    (h : Declaration behind (parts :: others) names) :
    ∃ own, parts.Declares own (others.flatMap DeclaratorParts.tokens ++ behind) ∧
      StartsWith [",", ";"] (parts.mark :: (others.flatMap DeclaratorParts.tokens ++ behind)) ∧
      (others ≠ [] →
        parts.mark.isPunctuator "," = true ∧ ∃ more, Declaration behind others more) := by
  cases h with
  | last h hmark => exact ⟨names, h, startsWith_cons hmark (by simp) _, by simp⟩
  | more h hmark hothers =>
    exact ⟨_, h, startsWith_cons hmark (by simp) _, fun _ => ⟨hmark, _, hothers⟩⟩

/-- A scan that comes to a declaration comes to each of its declarators. -/
theorem reachesDeclarator_parts {tokens : List Token} {before after : List DeclaratorParts}
    (h : Declaration behind (before ++ parts :: after) names) {recorded : List String}
    {previous : Option Token}
    (hreach : ReachesDeclarator tokens recorded
      ⟨previous, (before ++ parts :: after).flatMap DeclaratorParts.tokens ++ behind⟩) :
    ∃ recorded previous own, ReachesDeclarator tokens recorded
        ⟨previous, parts.tokens ++ (after.flatMap DeclaratorParts.tokens ++ behind)⟩ ∧
      parts.Declares own (after.flatMap DeclaratorParts.tokens ++ behind) ∧
      StartsWith [",", ";"] (parts.mark :: (after.flatMap DeclaratorParts.tokens ++ behind)) := by
  induction before generalizing names recorded previous with
  | nil =>
    obtain ⟨own, hparts, hmark, -⟩ := Declaration.head h
    rw [List.nil_append, List.flatMap_cons, List.append_assoc] at hreach
    exact ⟨recorded, previous, own, hreach, hparts, hmark⟩
  | cons first before ih =>
    obtain ⟨own, hfirst, hmark, hothers⟩ := Declaration.head h
    obtain ⟨hcomma, more, hmore⟩ := hothers (by simp)
    obtain ⟨hlt, hread⟩ := hfirst.reads previous
    rw [List.cons_append, List.flatMap_cons, List.append_assoc] at hreach
    have htail := hfirst.passDeclaratorTail hmark (lastOf previous first.pattern)
    have hlater := hreach.later hread (by rw [htail]; exact hcomma)
    rw [htail] at hlater
    exact ih hmore hlater

end Declarations

/-- A place in tokens with a list behind a name, and the same place without the list: both are in
front of the name, right behind the list, or further on. -/
inductive Drops (name : Token) (list behind : List Token) : Place → Place → Prop where
  | ahead (previous : Option Token) (front : List Token) :
      Drops name list behind ⟨previous, front ++ name :: (list ++ behind)⟩
        ⟨previous, front ++ name :: behind⟩
  | between : Drops name list behind ⟨lastOf (some name) list, behind⟩ ⟨some name, behind⟩
  | past {place : Place} (h : place.remaining < behind.length) : Drops name list behind place place

section Previous

/-- What is passed does not depend on the token in front of it. -/
theorem passGroupFrom_previous {tokens : List Token} (h : tokens ≠ []) (depth : Nat)
    (previous previous' : Option Token) :
    passGroupFrom depth previous tokens = passGroupFrom depth previous' tokens := by
  obtain _ | ⟨token, rest⟩ := tokens
  · exact absurd rfl h
  · rfl

theorem typeArgumentsFrom_previous (depth : Nat) (previous previous' : Option Token)
    (tokens : List Token) :
    typeArgumentsFrom depth ⟨previous, tokens⟩ = typeArgumentsFrom depth ⟨previous', tokens⟩ := by
  obtain _ | ⟨token, rest⟩ := tokens
  · rw [typeArgumentsFrom_of_none rfl, typeArgumentsFrom_of_none rfl]
  · have hfirst : Place.first? ⟨previous, token :: rest⟩ = some token := rfl
    have hfirst' : Place.first? ⟨previous', token :: rest⟩ = some token := rfl
    rw [typeArgumentsFrom_of_first? hfirst, typeArgumentsFrom_of_first? hfirst']
    rfl

theorem remaining_passGroupFrom_lt {tokens : List Token} (h : tokens ≠ []) (depth : Nat)
    (previous : Option Token) :
    (passGroupFrom depth previous tokens).remaining < tokens.length := by
  obtain _ | ⟨token, rest⟩ := tokens
  · exact absurd rfl h
  · have hle := fun depth => remaining_passGroupFrom_le depth (some token) rest
    rw [passGroupFrom, List.length_cons, Nat.lt_succ_iff]
    split
    · exact hle _
    · split
      · split
        · exact Nat.le_refl _
        · exact hle _
      · exact hle _

end Previous

section Dropping

variable {name token : Token} {list behind : List Token} {place place' : Place} {depth : Nat}
  {ends : Token → Bool}

theorem Drops.first? (h : Drops name list behind place place') : place'.first? = place.first? := by
  cases h with
  | ahead previous front => cases front <;> rfl
  | between => rfl
  | past h => rfl

/-- A token is passed at both places, and after the name the list is to come. -/
theorem Drops.next (h : Drops name list behind place place') (hfirst : place.first? = some token) :
    Drops name list behind place.next place'.next ∨
      token = name ∧ place.next = ⟨some name, list ++ behind⟩ ∧
        place'.next = ⟨some name, behind⟩ := by
  cases h with
  | ahead previous front =>
    obtain _ | ⟨first, front⟩ := front
    · cases hfirst
      exact .inr ⟨rfl, rfl, rfl⟩
    · exact .inl (.ahead (some first) front)
  | between =>
    obtain _ | ⟨first, rest⟩ := behind
    · cases hfirst
    · exact .inl (.past (Nat.lt_succ_self _))
  | past h => exact .inl (.past (Nat.lt_of_le_of_lt place.remaining_next_le h))

/-- A punctuator is passed alike. -/
theorem Drops.next_of_punctuator (hname : name.isAnyName = true)
    (h : Drops name list behind place place') (hfirst : place.first? = some token)
    (hkind : token.kind = .punctuator) : Drops name list behind place.next place'.next := by
  refine (h.next hfirst).resolve_right ?_
  rintro ⟨rfl, -⟩
  simp [Token.isAnyName, hkind] at hname

/-- A group is passed at both places, with the list in it if it has the name in it. -/
theorem drops_passGroupFrom (hname : name.isAnyName = true) (hlist : Balanced list)
    (hdepth : 0 < depth) (previous : Option Token) (front : List Token) :
    Drops name list behind (passGroupFrom depth previous (front ++ name :: (list ++ behind)))
      (passGroupFrom depth previous (front ++ name :: behind)) := by
  induction front generalizing depth previous with
  | nil =>
    have hkind : name.kind = .name := by simpa [Token.isAnyName] using hname
    have hplain := notBracket_of_kind (show name.kind ≠ .punctuator by simp [hkind])
    have hpassed : ∀ rest, passGroupFrom depth previous ([] ++ name :: rest) =
        passGroupFrom depth (some name) rest := by
      intro rest
      rw [List.nil_append, passGroupFrom, if_neg (by simp [hplain.1]), if_neg (by simp [hplain.2])]
    rw [hpassed, hpassed, passGroupFrom_balanced hlist hdepth]
    by_cases hend : behind = []
    · subst hend
      exact .between
    · rw [passGroupFrom_previous hend depth _ (some name)]
      exact .past (remaining_passGroupFrom_lt hend depth _)
  | cons first front ih =>
    rw [List.cons_append, List.cons_append, passGroupFrom, passGroupFrom]
    by_cases hopener : first.isOpener = true
    · rw [if_pos hopener, if_pos hopener]
      exact ih (Nat.succ_pos depth) _
    · rw [if_neg hopener, if_neg hopener]
      by_cases hcloser : first.isCloser = true
      · rw [if_pos hcloser, if_pos hcloser]
        by_cases hlast : depth ≤ 1
        · rw [if_pos hlast, if_pos hlast]
          exact .ahead (some first) front
        · rw [if_neg hlast, if_neg hlast]
          exact ih (by omega) _
      · rw [if_neg hcloser, if_neg hcloser]
        exact ih hdepth _

theorem Drops.passGroup (hname : name.isAnyName = true) (hlist : Balanced list)
    (h : Drops name list behind place place') (hfirst : place.first? = some token)
    (hopener : token.isOpener = true) :
    Drops name list behind (passGroup place) (passGroup place') := by
  cases h with
  | ahead previous front =>
    obtain _ | ⟨first, front⟩ := front
    · cases hfirst
      have hkind : name.kind = .name := by simpa [Token.isAnyName] using hname
      have hplain := notBracket_of_kind (show name.kind ≠ .punctuator by simp [hkind])
      cases hopener.symm.trans hplain.1
    · cases hfirst
      have hopened : ∀ rest, Exports.passGroup ⟨previous, token :: front ++ rest⟩ =
          passGroupFrom 1 (some token) (front ++ rest) := by
        intro rest
        rw [Exports.passGroup, List.cons_append, passGroupFrom, if_pos hopener]
      rw [hopened, hopened]
      exact drops_passGroupFrom hname hlist Nat.one_pos _ front
  | between =>
    obtain _ | ⟨first, rest⟩ := behind
    · cases hfirst
    · exact .past (remaining_passGroup_lt hfirst)
  | past h => exact .past (Nat.lt_trans (remaining_passGroup_lt hfirst) h)

/-- A list of type arguments within a longer one is passed. -/
theorem typeArgumentsFrom_within (hlist : IsTypeArguments list) (hdepth : 0 < depth)
    (previous : Option Token) :
    typeArgumentsFrom depth ⟨previous, list ++ behind⟩ =
      typeArgumentsFrom depth ⟨lastOf previous list, behind⟩ := by
  obtain ⟨angle, rest, rfl, hangle, hrest⟩ := hlist.cases
  have hplain := notBracket_of_isPunctuator hangle (by decide)
  have hstatement := opensStatement_of_punctuator (kind_of_isPunctuator hangle).1
  have hpassed := typeArgumentsFrom_append hrest depth (some angle) behind
  rw [if_neg (by omega), Nat.add_comm] at hpassed
  rw [List.cons_append, typeArgumentsFrom_of_first? rfl, if_neg (by simp [hstatement]),
    if_neg (by simp [hplain.1]), if_pos hangle, lastOf_cons]
  exact hpassed

/-- With an angle bracket open, both places come to the same end of it, or neither to one. -/
theorem Drops.typeArgumentsFrom (hname : name.isAnyName = true) (hlist : IsTypeArguments list)
    (h : Drops name list behind place place') (hdepth : 0 < depth) :
    Option.Rel (Drops name list behind) (typeArgumentsFrom depth place)
      (typeArgumentsFrom depth place') := by
  fun_induction Exports.typeArgumentsFrom depth place generalizing place' with
  | case1 depth place hf =>
    rw [typeArgumentsFrom_of_none (h.first?.trans hf)]
    exact .none
  | case2 depth place token hf hstatement =>
    rw [typeArgumentsFrom_of_first? (h.first?.trans hf), if_pos hstatement]
    exact .none
  | case3 depth place token hf hstatement hopener ih =>
    rw [typeArgumentsFrom_of_first? (h.first?.trans hf), if_neg hstatement, if_pos hopener]
    exact ih (h.passGroup hname hlist.balanced hf hopener) hdepth
  | case4 depth place token hf hstatement hopener hangle ih =>
    rw [typeArgumentsFrom_of_first? (h.first?.trans hf), if_neg hstatement, if_neg hopener,
      if_pos hangle]
    exact ih (h.next_of_punctuator hname hf (kind_of_isPunctuator hangle).1) (Nat.succ_pos depth)
  | case5 depth place token hf hstatement hopener hangle hcloses hinside ih =>
    rw [typeArgumentsFrom_of_first? (h.first?.trans hf), if_neg hstatement, if_neg hopener,
      if_neg hangle, if_pos hcloses, if_pos hinside]
    exact ih (h.next_of_punctuator hname hf (closedAngles_ne_zero hcloses).1)
      (Nat.sub_pos_of_lt hinside)
  | case6 place token hf hstatement hopener hangle hcloses hinside =>
    rw [typeArgumentsFrom_of_first? (h.first?.trans hf), if_neg hstatement, if_neg hopener,
      if_neg hangle, if_pos hcloses, if_neg hinside, if_pos rfl]
    exact .some (h.next_of_punctuator hname hf (closedAngles_ne_zero hcloses).1)
  | case7 depth place token hf hstatement hopener hangle hcloses hinside hlast =>
    rw [typeArgumentsFrom_of_first? (h.first?.trans hf), if_neg hstatement, if_neg hopener,
      if_neg hangle, if_pos hcloses, if_neg hinside, if_neg hlast]
    exact .none
  | case8 depth place token hf hstatement hopener hangle hcloses hfits ih =>
    rw [typeArgumentsFrom_of_first? (h.first?.trans hf), if_neg hstatement, if_neg hopener,
      if_neg hangle, if_neg hcloses, if_pos hfits]
    rcases h.next hf with hnext | ⟨-, hnext, hnext'⟩
    · exact ih hnext hdepth
    · rw [hnext, hnext', typeArgumentsFrom_within hlist hdepth,
        typeArgumentsFrom_previous depth _ (some name)]
      cases hend : Exports.typeArgumentsFrom depth ⟨some name, behind⟩ with
      | none => exact .none
      | some last => exact .some (.past (remaining_typeArgumentsFrom_lt hend))
  | case9 depth place token hf hstatement hopener hangle hcloses hfits =>
    rw [typeArgumentsFrom_of_first? (h.first?.trans hf), if_neg hstatement, if_neg hopener,
      if_neg hangle, if_neg hcloses, if_neg hfits]
    exact .none

/-- In front of an angle bracket both places have the same token behind them, unless that is the one
behind the list. -/
theorem Drops.typeArguments? (hname : name.isAnyName = true) (hlist : IsTypeArguments list)
    (hbehind : behind.head?.any (·.isPunctuator "<") = false)
    (h : Drops name list behind place place') (hfirst : place.first? = some token)
    (hangle : token.isPunctuator "<" = true) :
    Option.Rel (Drops name list behind) (typeArguments? place) (typeArguments? place') := by
  have hstatement := opensStatement_of_punctuator (kind_of_isPunctuator hangle).1
  have hplain := notBracket_of_isPunctuator hangle (by decide)
  have hopened : ∀ {place : Place}, place.first? = some token →
      Exports.typeArgumentsFrom 0 place = Exports.typeArgumentsFrom 1 place.next := by
    intro place hfirst
    rw [typeArgumentsFrom_of_first? hfirst, if_neg (by simp [hstatement]),
      if_neg (by simp [hplain.1]), if_pos hangle]
  have hprevious : place'.previous = place.previous := by
    cases h with
    | ahead previous front => rfl
    | between =>
      have hhead : behind.head? = some token := hfirst
      rw [hhead, Option.any_some, hangle] at hbehind
      cases hbehind
    | past h => rfl
  rw [Exports.typeArguments?, Exports.typeArguments?, hprevious]
  split
  · rw [hopened hfirst, hopened (h.first?.trans hfirst)]
    have hnext := h.next_of_punctuator hname hfirst (kind_of_isPunctuator hangle).1
    exact hnext.typeArgumentsFrom hname hlist Nat.one_pos
  · exact .none

/-- Right behind the list, both go on alike. -/
theorem drops_passExpression_between (ends : Token → Bool)
    (hbehind : behind.head?.any (·.isPunctuator "<") = false) :
    Drops name list behind (passExpression ends ⟨lastOf (some name) list, behind⟩)
      (passExpression ends ⟨some name, behind⟩) := by
  obtain _ | ⟨token, rest⟩ := behind
  · rw [passExpression_of_none rfl, passExpression_of_none rfl]
    exact .between
  · have hangle : token.isPunctuator "<" = false := hbehind
    have hpassed : ∀ previous, passExpression ends ⟨previous, token :: rest⟩ =
        if ends token then ⟨previous, token :: rest⟩
        else passExpression ends
          (if token.isOpener then passGroupFrom 0 none (token :: rest)
          else ⟨some token, rest⟩) := by
      intro previous
      rw [passExpression_of_first? rfl,
        if_neg (show ¬ token.isPunctuator "<" = true by simp [hangle]),
        ← apply_ite (passExpression ends)]
      rfl
    rw [hpassed, hpassed]
    by_cases hends : ends token = true
    · rw [if_pos hends, if_pos hends]
      exact .between
    · rw [if_neg hends, if_neg hends]
      refine .past (Nat.lt_of_le_of_lt (remaining_passExpression_le _ _) ?_)
      split
      · exact remaining_passGroupFrom_lt (List.cons_ne_nil token rest) 0 none
      · exact Nat.lt_succ_self _

/-- An expression that angle brackets do not end is passed at both places to the same end. -/
theorem Drops.passExpression (hname : name.isAnyName = true) (hlist : IsTypeArguments list)
    (hbehind : behind.head?.any (·.isPunctuator "<") = false)
    (hends : ∀ token, token.isPunctuator "<" = true → ends token = false)
    (h : Drops name list behind place place') :
    Drops name list behind (passExpression ends place) (passExpression ends place') := by
  fun_induction Exports.passExpression ends place generalizing place' with
  | case1 place hf =>
    rw [passExpression_of_none (h.first?.trans hf)]
    exact h
  | case2 place token hf hend =>
    rw [passExpression_of_first? (h.first?.trans hf), if_pos hend]
    exact h
  | case3 place token hf hend hopener ih =>
    rw [passExpression_of_first? (h.first?.trans hf), if_neg hend, if_pos hopener]
    exact ih (h.passGroup hname hlist.balanced hf hopener)
  | case4 place token hf hend hopener hangle after hargs ih =>
    rw [passExpression_of_first? (h.first?.trans hf), if_neg hend, if_neg hopener, if_pos hangle]
    have hrel := h.typeArguments? hname hlist hbehind hf hangle
    rw [hargs] at hrel
    cases hafter : Exports.typeArguments? place' with
    | none =>
      rw [hafter] at hrel
      cases hrel
    | some after' =>
      rw [hafter, Option.rel_some_some] at hrel
      exact ih hrel
  | case5 place token hf hend hopener hangle hargs ih =>
    rw [passExpression_of_first? (h.first?.trans hf), if_neg hend, if_neg hopener, if_pos hangle]
    have hrel := h.typeArguments? hname hlist hbehind hf hangle
    rw [hargs] at hrel
    cases hafter : Exports.typeArguments? place' with
    | none => exact ih (h.next_of_punctuator hname hf (kind_of_isPunctuator hangle).1)
    | some after' =>
      rw [hafter] at hrel
      cases hrel
  | case6 place token hf hend hopener hangle ih =>
    rw [passExpression_of_first? (h.first?.trans hf), if_neg hend, if_neg hopener, if_neg hangle]
    rcases h.next hf with hnext | ⟨-, hnext, hnext'⟩
    · exact ih hnext
    · -- The name is passed, and then the list, which is found where it starts.
      obtain ⟨angle, rest, rfl, hmark, -⟩ := hlist.cases
      have hnamed : (some name).any Token.isAnyName = true := hname
      have hfound := typeArguments?_list hlist hnamed behind
      rw [List.cons_append] at hnext hfound
      rw [hnext, hnext', passExpression_angle hmark (hends angle hmark), hfound]
      exact drops_passExpression_between ends hbehind

/-- What is scanned behind an initializer with the list in it is what is scanned behind the one
without the list. -/
theorem Drops.scanAfterDeclarator (hname : name.isAnyName = true) (hlist : IsTypeArguments list)
    (h : Drops name list behind place place') (hle : place.remaining ≤ behind.length) :
    scanAfterDeclarator place' = scanAfterDeclarator place := by
  cases h with
  | ahead previous front =>
    simp only [Place.remaining, List.length_append, List.length_cons] at hle
    omega
  | between =>
    obtain ⟨angle, rest, rfl, -, hrest⟩ := hlist.cases
    obtain ⟨closer, hlast, hcloser⟩ := lastOf_closesAngles hrest (some angle)
    obtain ⟨hkind, hvalue⟩ := closedAngles_ne_zero hcloser
    have haccess : (some name).any Token.isAccess = (some closer).any Token.isAccess := by
      have hname' : name.kind = .name := by simpa [Token.isAnyName] using hname
      have hcloser' : closer.isAccess = false := by
        rcases hvalue with hvalue | hvalue | hvalue <;>
          simp [Token.isAccess, Token.isPunctuator, hvalue]
      rw [Option.any_some, Option.any_some, hcloser']
      simp [Token.isAccess, Token.isPunctuator, hname']
    rw [lastOf_cons, hlast, Exports.scanAfterDeclarator, Exports.scanAfterDeclarator]
    obtain _ | ⟨token, behind⟩ := behind
    · exact scanFrom_previous 0 haccess []
    · exact if_congr Iff.rfl rfl (scanFrom_previous 0 haccess _)
  | past h => rfl

end Dropping

end RouteTable.Exports
