import RouteTable.Proofs.Exports.Progress

/-!
Tokens that begin alike. In front of a token that stands in both lists all brackets are closed, and
the token itself ends every search for type arguments. So a reader of declarators that does not go
on behind it reads both lists alike, with all that it looks ahead at.
-/

namespace RouteTable.Exports

open Script

/-- Two lists of tokens that are the same up to an index and at it. Brackets are closed in front of
it, and the token there is nothing that passing looks for. -/
structure BeginAlike (bound : Nat) (tokens tokens' : List Token) : Prop where
  same : ∀ i ≤ bound, tokens'[i]? = tokens[i]?
  closes : Closes 0 (tokens.take bound)
  inert : ∃ token, tokens[bound]? = some token ∧ IsInert token

theorem beginAlike_append {front : List Token} {token : Token} (hfront : Closes 0 front)
    (htoken : IsInert token) (rest rest' : List Token) :
    BeginAlike front.length (front ++ token :: rest) (front ++ token :: rest') where
  same := by
    intro i hi
    rcases Nat.lt_or_eq_of_le hi with hlt | rfl
    · rw [List.getElem?_append_left hlt, List.getElem?_append_left hlt]
    · simp
  closes := by rwa [List.take_left]
  inert := ⟨token, by simp, htoken⟩

namespace BeginAlike

variable {bound i : Nat} {tokens tokens' : List Token}

theorem lt_length (h : BeginAlike bound tokens tokens') : bound < tokens.length := by
  obtain ⟨token, htoken, -⟩ := h.inert
  exact ByIndex.lt_length_of_getElem? htoken

theorem take_eq (h : BeginAlike bound tokens tokens') (hi : i ≤ bound) :
    tokens'.take i = tokens.take i := by
  apply List.ext_getElem?
  intro j
  rw [List.getElem?_take, List.getElem?_take]
  split
  · exact h.same j (by omega)
  · rfl

/-- Some brackets that are open at an index are closed up to the bound. -/
theorem closes_drop (h : BeginAlike bound tokens tokens') (i : Nat) :
    ∃ n, Closes n ((tokens.take bound).drop i) := by
  have hdrop : ∀ (list : List Token) (i n : Nat), Closes n list → ∃ n, Closes n (list.drop i) := by
    intro list
    induction list with
    | nil => exact fun i n hn => ⟨n, by rwa [List.drop_nil]⟩
    | cons token rest ih =>
      rintro (_ | i) n hn
      · exact ⟨n, hn⟩
      · exact ih i _ hn.2
  exact hdrop _ i 0 h.closes

/-- The tokens from an index up to the bound are the one at the index and those behind it. -/
theorem drop_cons (hi : i < bound) {token : Token} (htoken : tokens[i]? = some token) :
    (tokens.take bound).drop i = token :: (tokens.take bound).drop (i + 1) := by
  have htake : (tokens.take bound)[i]? = some token := by
    rw [List.getElem?_take, if_pos hi, htoken]
  obtain ⟨hlt, hget⟩ := List.getElem?_eq_some_iff.1 htake
  rw [List.drop_eq_getElem_cons hlt, hget]

end BeginAlike

namespace ByIndex

/-- A reader that leads from an index to none before it, and another one that does the same where
that is not behind the bound. -/
structure Keeps (bound i : Nat) (walk walk' : Walk Nat) : Prop where
  advances : ∀ r, walk.outcome = .ok r → i ≤ r
  same : ∀ r, walk.outcome = .ok r → r ≤ bound → walk' = walk

section Keeps

variable {bound i : Nat}

theorem keeps_pure {r : Nat} (h : i ≤ r) : Keeps bound i (pure r) (pure r) where
  advances := by
    rintro _ ⟨⟩
    exact h
  same := fun _ _ _ => rfl

theorem keeps_error {names : List String} {e : Stop} (walk' : Walk Nat) :
    Keeps bound i ⟨names, .error e⟩ walk' where
  advances := by
    intro r hr
    cases hr
  same := by
    intro r hr
    cases hr

theorem Keeps.mono {j : Nat} {walk walk' : Walk Nat} (h : Keeps bound j walk walk') (hle : i ≤ j) :
    Keeps bound i walk walk' where
  advances := fun r hr => Nat.le_trans hle (h.advances r hr)
  same := h.same

/-- Behind the bound only the index counts. -/
theorem keeps_of_le {walk walk' second : Walk Nat} (hwalk : Keeps bound i walk second)
    (hsame : i ≤ bound → walk' = second) : Keeps bound i walk walk' where
  advances := hwalk.advances
  same := by
    intro r hr hle
    have hi := hwalk.advances r hr
    rw [hsame (Nat.le_trans hi hle)]
    exact hwalk.same r hr hle

/-- The same with something of the other list put in that is the same up to the bound. -/
theorem keeps_of_eq {α : Type} {walk : Walk Nat} {second : α → Walk Nat} {a a' : α}
    (ha : i ≤ bound → a' = a) (h : Keeps bound i walk (second a)) :
    Keeps bound i walk (second a') :=
  keeps_of_le h fun hle => by rw [ha hle]

theorem keeps_ite {c c' : Prop} [Decidable c] [Decidable c']
    {first second first' second' : Walk Nat} (hc : i ≤ bound → (c' ↔ c))
    (hfirst : c → Keeps bound i first first')
    (hsecond : ¬c → Keeps bound i second second') :
    Keeps bound i (if c then first else second) (if c' then first' else second') := by
  by_cases h : c
  · rw [if_pos h]
    exact keeps_of_le (hfirst h) fun hle => if_pos ((hc hle).2 h)
  · rw [if_neg h]
    exact keeps_of_le (hsecond h) fun hle => if_neg (mt (hc hle).1 h)

/-- Looking at what stands at an index. -/
theorem keeps_match {tokens tokens' : List Token} {j : Nat} {atEnd atEnd' : Walk Nat}
    {atToken atToken' : Token → Walk Nat} (hsame : i ≤ bound → tokens'[j]? = tokens[j]?)
    (hend : Keeps bound i atEnd atEnd')
    (htoken : ∀ token, tokens[j]? = some token → Keeps bound i (atToken token) (atToken' token)) :
    Keeps bound i
      (match tokens[j]? with
        | none => atEnd
        | some token => atToken token)
      (match tokens'[j]? with
        | none => atEnd'
        | some token => atToken' token) := by
  cases hfound : tokens[j]? with
  | none => exact keeps_of_le hend fun hle => by rw [hsame hle, hfound]
  | some token => exact keeps_of_le (htoken token hfound) fun hle => by rw [hsame hle, hfound]

/-- The same for readers that look for a token first, and for the end second. -/
theorem keeps_found {tokens tokens' : List Token} {j j' : Nat} {atEnd atEnd' : Walk Nat}
    {atToken atToken' : Token → Walk Nat} (hsame : i ≤ bound → tokens'[j']? = tokens[j]?)
    (htoken : ∀ token, tokens[j]? = some token → Keeps bound i (atToken token) (atToken' token))
    (hend : Keeps bound i atEnd atEnd') :
    Keeps bound i
      (match tokens[j]? with
        | some token => atToken token
        | none => atEnd)
      (match tokens'[j']? with
        | some token => atToken' token
        | none => atEnd') := by
  cases hfound : tokens[j]? with
  | none => exact keeps_of_le hend fun hle => by rw [hsame hle, hfound]
  | some token => exact keeps_of_le (htoken token hfound) fun hle => by rw [hsame hle, hfound]

/-- Going on from what is the same in both. -/
theorem keeps_bind_of_eq {α : Type} {found found' : Walk α} {next next' : α → Walk Nat}
    (hfound : i ≤ bound → found' = found)
    (hnext : ∀ a, found.outcome = .ok a → Keeps bound i (next a) (next' a)) :
    Keeps bound i (found >>= next) (found' >>= next') := by
  have hkeeps : Keeps bound i (found >>= next) (found >>= next') := by
    obtain ⟨names, e | a⟩ := found
    · exact keeps_error _
    · have ha := hnext a rfl
      refine ⟨ha.advances, fun r hr hle => ?_⟩
      rw [Reporting.bind_ok, Reporting.bind_ok, ha.same r hr hle]
  exact keeps_of_le hkeeps fun hle => by rw [hfound hle]

theorem Keeps.bind {found found' : Walk Nat} {next next' : Nat → Walk Nat}
    (h : Keeps bound i found found')
    (hnext : ∀ r, found.outcome = .ok r → i ≤ r → Keeps bound r (next r) (next' r)) :
    Keeps bound i (found >>= next) (found' >>= next') := by
  obtain ⟨names, e | r⟩ := found
  · exact keeps_error _
  · have hr := h.advances r rfl
    have hlast := hnext r rfl hr
    refine ⟨fun s hs => Nat.le_trans hr (hlast.advances s hs), fun s hs hle => ?_⟩
    rw [h.same r rfl (Nat.le_trans (hlast.advances s hs) hle), Reporting.bind_ok,
      Reporting.bind_ok, hlast.same s hs hle]

theorem keeps_record_bind {name : String} {next next' : Unit → Walk Nat}
    (h : Keeps bound i (next ()) (next' ())) :
    Keeps bound i (record name >>= next) (record name >>= next') :=
  keeps_bind_of_eq (fun _ => rfl) fun _ _ => h

end Keeps

section Skippers

variable {bound i : Nat} {tokens tokens' : List Token}

theorem isPunctuator_alike (h : BeginAlike bound tokens tokens') (hi : i ≤ bound) (text : String) :
    isPunctuator tokens' i text = isPunctuator tokens i text := by
  rw [isPunctuator, isPunctuator, h.same i hi]

theorem isName_alike (h : BeginAlike bound tokens tokens') (hi : i ≤ bound) (name : String) :
    isName tokens' i name = isName tokens i name := by
  rw [isName, isName, h.same i hi]

theorem isAnyName_alike (h : BeginAlike bound tokens tokens') (hi : i ≤ bound) :
    isAnyName tokens' i = isAnyName tokens i := by
  rw [isAnyName, isAnyName, h.same i hi]

theorem keeps_skipBalanced (h : BeginAlike bound tokens tokens') (steps depth i : Nat) :
    Keeps bound i (skipBalanced tokens steps depth i) (skipBalanced tokens' steps depth i) := by
  induction steps generalizing depth i with
  | zero => exact keeps_error _
  | succ steps ih =>
    have hnext := fun depth => (ih depth (i + 1)).mono (Nat.le_succ i)
    rw [skipBalanced, skipBalanced]
    refine keeps_match (h.same i) (keeps_pure (Nat.le_refl i)) fun token _ => ?_
    refine keeps_ite (fun _ => Iff.rfl) (fun _ => hnext _) fun _ => ?_
    refine keeps_ite (fun _ => Iff.rfl) (fun _ => ?_) fun _ => hnext _
    exact keeps_ite (fun _ => Iff.rfl) (fun _ => keeps_pure (Nat.le_succ i)) fun _ => hnext _

/-- Inside of brackets that are closed up to the bound, both readers come to the same closer. -/
theorem skipBalanced_alike (h : BeginAlike bound tokens tokens') {depth n : Nat} (steps : Nat)
    (hdepth : 0 < depth) (hi : i ≤ bound)
    (hcloses : Closes (depth + n) ((tokens.take bound).drop i)) :
    skipBalanced tokens' steps depth i = skipBalanced tokens steps depth i ∧
      ∀ r, (skipBalanced tokens steps depth i).outcome = .ok r → r ≤ bound := by
  induction steps generalizing depth i with
  | zero => exact ⟨rfl, fun r hr => by cases hr⟩
  | succ steps ih =>
    rcases Nat.lt_or_eq_of_le hi with hlt | rfl
    · obtain ⟨token, htoken⟩ : ∃ token, tokens[i]? = some token :=
        ⟨_, List.getElem?_eq_getElem (Nat.lt_trans hlt h.lt_length)⟩
      rw [BeginAlike.drop_cons hlt htoken] at hcloses
      rw [skipBalanced, skipBalanced, h.same i hi, htoken]
      dsimp only
      by_cases hopener : token.isOpener = true
      · rw [closes_opener hopener, Nat.add_right_comm] at hcloses
        rw [if_pos hopener, if_pos hopener]
        exact ih (Nat.succ_pos depth) hlt hcloses
      · rw [if_neg hopener, if_neg hopener]
        by_cases hcloser : token.isCloser = true
        · obtain ⟨m, hm, hrest⟩ := (closes_closer hcloser).1 hcloses
          rw [if_pos hcloser, if_pos hcloser]
          by_cases hlast : depth - 1 = 0
          · rw [if_pos hlast, if_pos hlast]
            refine ⟨rfl, ?_⟩
            rintro _ ⟨⟩
            exact hlt
          · rw [if_neg hlast, if_neg hlast]
            exact ih (by omega) hlt (by rwa [show depth - 1 + n = m by omega])
        · rw [if_neg hcloser, if_neg hcloser]
          rw [Bool.not_eq_true] at hopener hcloser
          rw [closes_plain hopener hcloser] at hcloses
          exact ih hdepth hlt hcloses
    · rw [List.drop_take_self] at hcloses
      have hnone : depth + n = 0 := hcloses
      omega

/-- A group that starts in front of the bound is passed in both lists, and ends in front of it. -/
theorem skipGroup_alike (h : BeginAlike bound tokens tokens') (steps : Nat) (hi : i < bound)
    {token : Token} (htoken : tokens[i]? = some token) (hopener : token.isOpener = true) :
    skipBalanced tokens' steps 0 i = skipBalanced tokens steps 0 i ∧
      ∀ r, (skipBalanced tokens steps 0 i).outcome = .ok r → r ≤ bound := by
  cases steps with
  | zero => exact ⟨rfl, fun r hr => by cases hr⟩
  | succ steps =>
    obtain ⟨n, hcloses⟩ := h.closes_drop i
    rw [BeginAlike.drop_cons hi htoken, closes_opener hopener, Nat.add_comm] at hcloses
    rw [skipBalanced, skipBalanced, h.same i (Nat.le_of_lt hi), htoken]
    dsimp only
    rw [if_pos hopener, if_pos hopener]
    exact skipBalanced_alike h steps Nat.one_pos hi hcloses

theorem bind_congr_of_ok {α β : Type} {found : Walk α} {next next' : α → Walk β}
    (h : ∀ a, found.outcome = .ok a → next' a = next a) : (found >>= next') = found >>= next := by
  obtain ⟨names, e | a⟩ := found
  · rfl
  · rw [Reporting.bind_ok, Reporting.bind_ok, h a rfl]

/-- The search for the end of type arguments looks at nothing behind the bound. -/
theorem typeArgumentsFrom_alike (h : BeginAlike bound tokens tokens') (start steps depth : Nat)
    (hi : i ≤ bound) :
    typeArgumentsFrom tokens' start steps depth i =
      typeArgumentsFrom tokens start steps depth i := by
  induction steps generalizing depth i with
  | zero => rfl
  | succ steps ih =>
    rw [typeArgumentsFrom, typeArgumentsFrom, h.same i hi]
    rcases Nat.lt_or_eq_of_le hi with hlt | rfl
    · obtain ⟨token, htoken⟩ : ∃ token, tokens[i]? = some token :=
        ⟨_, List.getElem?_eq_getElem (Nat.lt_trans hlt h.lt_length)⟩
      rw [htoken]
      dsimp only
      have hnext := fun depth => ih depth (show i + 1 ≤ bound from hlt)
      by_cases hopener : token.isOpener = true
      · obtain ⟨hgroup, hend⟩ := skipGroup_alike h steps hlt htoken hopener
        have hlater : (skipBalanced tokens steps 0 i >>= fun after =>
            typeArgumentsFrom tokens' start steps depth after) =
              skipBalanced tokens steps 0 i >>= fun after =>
                typeArgumentsFrom tokens start steps depth after :=
          bind_congr_of_ok fun r hr => ih depth (hend r hr)
        rw [if_pos hopener, if_pos hopener, hgroup, hlater]
      · simp only [hnext]
        rw [if_neg hopener, if_neg hopener]
    · obtain ⟨token, htoken, hinert⟩ := h.inert
      rw [htoken]
      simp [hinert.statement, hinert.opener, hinert.angle, hinert.closes, hinert.unfit]

theorem typeArgumentsEnd_alike (h : BeginAlike bound tokens tokens') (steps : Nat)
    (hi : i ≤ bound) :
    typeArgumentsEnd tokens' steps i = typeArgumentsEnd tokens steps i := by
  rw [typeArgumentsEnd, typeArgumentsEnd, isAnyName_alike h (by omega),
    typeArgumentsFrom_alike h i steps 0 hi]

/-- Where an end of type arguments is found, it is behind the index that it is looked for from. -/
theorem lt_of_typeArgumentsFrom (h : BeginAlike bound tokens tokens') {start steps depth r : Nat}
    (hfound : (typeArgumentsFrom tokens start steps depth i).outcome = .ok (some r)) : i < r := by
  induction steps generalizing depth i with
  | zero => cases hfound
  | succ steps ih =>
    have hnext := fun depth h => Nat.lt_of_succ_lt (@ih (i + 1) depth h)
    rw [typeArgumentsFrom] at hfound
    split at hfound
    · cases hfound
    · split at hfound
      · cases hfound
      split at hfound
      · obtain ⟨after, hafter, hlast⟩ := Reporting.outcome_bind_eq_ok_iff.1 hfound
        exact Nat.lt_of_le_of_lt ((keeps_skipBalanced h steps 0 i).advances after hafter) (ih hlast)
      split at hfound
      · exact hnext _ hfound
      split at hfound
      · split at hfound
        · split at hfound
          · cases hfound
            exact Nat.lt_succ_self i
          · cases hfound
        · obtain ⟨left, -, hlast⟩ := Reporting.outcome_bind_eq_ok_iff.1 hfound
          exact hnext _ hlast
      split at hfound
      · exact hnext _ hfound
      · cases hfound

theorem keeps_skipExpression (h : BeginAlike bound tokens tokens') (ends : Token → Bool)
    (steps i : Nat) :
    Keeps bound i (skipExpression tokens ends steps i) (skipExpression tokens' ends steps i) := by
  induction steps generalizing i with
  | zero => exact keeps_error _
  | succ steps ih =>
    have hnext := (ih (i + 1)).mono (Nat.le_succ i)
    rw [skipExpression, skipExpression]
    refine keeps_match (h.same i) (keeps_pure (Nat.le_refl i)) fun token _ => ?_
    refine keeps_ite (fun _ => Iff.rfl) (fun _ => keeps_pure (Nat.le_refl i)) fun _ => ?_
    refine keeps_ite (fun _ => Iff.rfl) (fun _ => ?_) fun _ => ?_
    · exact (keeps_skipBalanced h steps 0 i).bind fun r _ _ => ih r
    refine keeps_ite (fun _ => Iff.rfl) (fun _ => ?_) fun _ => hnext
    refine keeps_bind_of_eq (typeArgumentsEnd_alike h steps) fun found hfound => ?_
    cases found with
    | none => exact hnext
    | some after =>
      refine (ih after).mono (Nat.le_of_lt ?_)
      rw [typeArgumentsEnd] at hfound
      split at hfound
      · exact lt_of_typeArgumentsFrom h hfound
      · cases hfound

theorem keeps_skipAnnotatedType (h : BeginAlike bound tokens tokens') (steps angles i : Nat) :
    Keeps bound i (skipAnnotatedType tokens steps angles i)
      (skipAnnotatedType tokens' steps angles i) := by
  induction steps generalizing angles i with
  | zero => exact keeps_error _
  | succ steps ih =>
    have hhere : Keeps bound i (pure i) (pure i) := keeps_pure (Nat.le_refl i)
    have hnext := fun angles => (ih angles (i + 1)).mono (Nat.le_succ i)
    rw [skipAnnotatedType, skipAnnotatedType]
    refine keeps_match (h.same i) hhere fun token _ => ?_
    refine keeps_ite (fun _ => Iff.rfl) (fun _ => hhere) fun _ => ?_
    refine keeps_ite (fun _ => Iff.rfl) (fun _ => ?_) fun _ => ?_
    · exact (keeps_skipBalanced h steps 0 i).bind fun r _ _ => ih angles r
    refine keeps_ite (fun _ => Iff.rfl) (fun _ => hnext _) fun _ => ?_
    refine keeps_ite (fun _ => Iff.rfl) (fun _ => hnext _) fun _ => ?_
    refine keeps_ite (fun _ => Iff.rfl) (fun _ => hhere) fun _ => ?_
    exact keeps_ite (fun _ => Iff.rfl) (fun _ => hhere) fun _ => hnext _

theorem keeps_skipOptionalDefault (h : BeginAlike bound tokens tokens') (steps i : Nat) :
    Keeps bound i (skipOptionalDefault tokens steps i) (skipOptionalDefault tokens' steps i) := by
  refine keeps_ite (fun hi => by rw [isPunctuator_alike h hi]) (fun _ => ?_) fun _ =>
    keeps_pure (Nat.le_refl i)
  exact (keeps_skipExpression h endsDefault steps (i + 1)).mono (Nat.le_succ i)

theorem keeps_skipOptionalType (h : BeginAlike bound tokens tokens') (steps i : Nat) :
    Keeps bound i
      (skipOptionalType tokens steps (if isPunctuator tokens i "!" then i + 1 else i))
      (skipOptionalType tokens' steps (if isPunctuator tokens' i "!" then i + 1 else i)) := by
  have hannotated : ∀ i, Keeps bound i (skipOptionalType tokens steps i)
      (skipOptionalType tokens' steps i) := by
    intro i
    refine keeps_ite (fun hi => by rw [isPunctuator_alike h hi]) (fun _ => ?_) fun _ =>
      keeps_pure (Nat.le_refl i)
    exact (keeps_skipAnnotatedType h steps 0 (i + 1)).mono (Nat.le_succ i)
  refine keeps_of_eq (fun hi => ?_) ((hannotated _).mono (le_ite_succ _ i))
  rw [isPunctuator_alike h hi]

theorem keeps_skipDeclaratorTail (h : BeginAlike bound tokens tokens') (steps i : Nat) :
    Keeps bound i (skipDeclaratorTail tokens steps i) (skipDeclaratorTail tokens' steps i) := by
  refine (keeps_skipOptionalType h steps i).bind fun r _ _ => ?_
  refine keeps_ite (fun hle => by rw [isPunctuator_alike h hle]) (fun _ => ?_) fun _ =>
    keeps_pure (Nat.le_refl r)
  exact (keeps_skipExpression h endsInitializer steps (r + 1)).mono (Nat.le_succ r)

end Skippers

section Patterns

variable {bound i : Nat} {tokens tokens' : List Token}

/-- A token that fits type arguments does not stand at the bound. -/
theorem lt_of_fits (h : BeginAlike bound tokens tokens') (hi : i ≤ bound) {test : Token → Bool}
    (htest : ∀ token, test token = true → fitsTypeArguments token = true)
    (hany : tokens[i]?.any test = true) : i < bound := by
  refine Nat.lt_of_le_of_ne hi ?_
  rintro rfl
  obtain ⟨token, htoken, hinert⟩ := h.inert
  rw [htoken, Option.any_some] at hany
  cases (htest token hany).symm.trans hinert.unfit

theorem lt_of_isAnyName (h : BeginAlike bound tokens tokens') (hi : i ≤ bound)
    (hname : isAnyName tokens i = true) : i < bound := by
  refine lt_of_fits h hi (fun token htoken => ?_) hname
  have hkind : token.kind = .name := by simpa [Token.isAnyName] using htoken
  simp [fitsTypeArguments, hkind]

theorem lt_of_isName (h : BeginAlike bound tokens tokens') (hi : i ≤ bound) {name : String}
    (hname : isName tokens i name = true) : i < bound := by
  refine lt_of_fits h hi (fun token htoken => ?_) hname
  have hkind : token.kind = .name ∧ token.value = name := by simpa [Token.isName] using htoken
  simp [fitsTypeArguments, hkind.1]

theorem keeps_skipKey (h : BeginAlike bound tokens tokens') (steps i : Nat) :
    Keeps bound i (skipKey tokens steps i) (skipKey tokens' steps i) := by
  refine keeps_match (h.same i) (keeps_error _) fun key _ => ?_
  refine keeps_ite (fun _ => Iff.rfl) (fun _ => keeps_skipBalanced h steps 0 i) fun _ => ?_
  exact keeps_ite (fun _ => Iff.rfl) (fun _ => keeps_pure (Nat.le_succ i)) fun _ => keeps_error _

/-- With so many steps, the readers of patterns read both lists alike. -/
structure KeepsPatterns (bound : Nat) (tokens tokens' : List Token) (steps : Nat) : Prop where
  binding : ∀ i, Keeps bound i (bindingPattern tokens steps i) (bindingPattern tokens' steps i)
  property : ∀ i, Keeps bound i (objectProperty tokens steps i) (objectProperty tokens' steps i)
  object : ∀ i, Keeps bound i (objectPattern tokens steps i) (objectPattern tokens' steps i)
  array : ∀ i, Keeps bound i (arrayPattern tokens steps i) (arrayPattern tokens' steps i)

theorem keeps_bindingPattern {steps : Nat} (h : BeginAlike bound tokens tokens')
    (hpatterns : KeepsPatterns bound tokens tokens' steps) (i : Nat) :
    Keeps bound i (bindingPattern tokens (steps + 1) i) (bindingPattern tokens' (steps + 1) i) := by
  rw [bindingPattern, bindingPattern]
  refine keeps_match (h.same i) (keeps_error _) fun token _ => ?_
  refine keeps_ite (fun _ => Iff.rfl) (fun _ => keeps_record_bind (keeps_pure (Nat.le_succ i))) ?_
  intro _
  refine keeps_ite (fun _ => Iff.rfl) (fun _ => ?_) fun _ => ?_
  · exact (hpatterns.object (i + 1)).mono (Nat.le_succ i)
  refine keeps_ite (fun _ => Iff.rfl) (fun _ => ?_) fun _ => keeps_error _
  exact (hpatterns.array (i + 1)).mono (Nat.le_succ i)

theorem keeps_objectProperty {steps : Nat} (h : BeginAlike bound tokens tokens')
    (hpatterns : KeepsPatterns bound tokens tokens' steps) (i : Nat) :
    Keeps bound i (objectProperty tokens (steps + 1) i) (objectProperty tokens' (steps + 1) i) := by
  have hshorthand : i ≤ bound → (isAnyName tokens' i && !isPunctuator tokens' (i + 1) ":") =
      (isAnyName tokens i && !isPunctuator tokens (i + 1) ":") := by
    intro hi
    rw [isAnyName_alike h hi]
    cases hname : isAnyName tokens i with
    | false => rfl
    | true => rw [isPunctuator_alike h (lt_of_isAnyName h hi hname)]
  rw [objectProperty, objectProperty]
  refine keeps_ite (fun hi => by rw [isPunctuator_alike h hi]) (fun _ => ?_) fun _ => ?_
  · exact (hpatterns.binding (i + 1)).mono (Nat.le_succ i)
  refine keeps_ite (fun hi => by rw [hshorthand hi]) (fun _ => ?_) fun _ => ?_
  · refine keeps_bind_of_eq (fun hi => by rw [h.same i hi]) fun _ _ => ?_
    exact (keeps_skipOptionalDefault h steps (i + 1)).mono (Nat.le_succ i)
  · refine (keeps_skipKey h steps i).bind fun colon _ _ => ?_
    refine keeps_ite (fun hle => by rw [isPunctuator_alike h hle]) (fun _ => ?_) fun _ =>
      keeps_error _
    refine Keeps.mono ?_ (Nat.le_succ colon)
    exact (hpatterns.binding (colon + 1)).bind fun r _ _ => keeps_skipOptionalDefault h steps r

theorem keeps_objectPattern {steps : Nat} (h : BeginAlike bound tokens tokens')
    (hpatterns : KeepsPatterns bound tokens tokens' steps) (i : Nat) :
    Keeps bound i (objectPattern tokens (steps + 1) i) (objectPattern tokens' (steps + 1) i) := by
  rw [objectPattern, objectPattern]
  refine keeps_ite (fun hi => by rw [isPunctuator_alike h hi])
    (fun _ => keeps_pure (Nat.le_succ i)) fun _ => ?_
  refine (hpatterns.property i).bind fun after _ _ => ?_
  refine keeps_ite (fun hle => by rw [isPunctuator_alike h hle]) (fun _ => ?_) fun _ => ?_
  · exact (hpatterns.object (after + 1)).mono (Nat.le_succ after)
  · exact keeps_ite (fun hle => by rw [isPunctuator_alike h hle])
      (fun _ => hpatterns.object after) fun _ => keeps_error _

theorem keeps_arrayPattern {steps : Nat} (h : BeginAlike bound tokens tokens')
    (hpatterns : KeepsPatterns bound tokens tokens' steps) (i : Nat) :
    Keeps bound i (arrayPattern tokens (steps + 1) i) (arrayPattern tokens' (steps + 1) i) := by
  have hstart : i ≤ bound → (if isPunctuator tokens' i "..." then i + 1 else i) =
      if isPunctuator tokens i "..." then i + 1 else i := by
    intro hi
    rw [isPunctuator_alike h hi]
  rw [arrayPattern, arrayPattern]
  refine keeps_ite (fun hi => by rw [isPunctuator_alike h hi])
    (fun _ => keeps_pure (Nat.le_succ i)) fun _ => ?_
  refine keeps_ite (fun hi => by rw [isPunctuator_alike h hi]) (fun _ => ?_) fun _ => ?_
  · exact (hpatterns.array (i + 1)).mono (Nat.le_succ i)
  have hfirst := keeps_of_eq hstart ((hpatterns.binding _).mono (le_ite_succ _ i))
  refine hfirst.bind fun r _ _ => ?_
  refine (keeps_skipOptionalDefault h steps r).bind fun after _ _ => ?_
  refine keeps_ite (fun hle => by rw [isPunctuator_alike h hle]) (fun _ => ?_) fun _ => ?_
  · exact (hpatterns.array (after + 1)).mono (Nat.le_succ after)
  · exact keeps_ite (fun hle => by rw [isPunctuator_alike h hle])
      (fun _ => hpatterns.array after) fun _ => keeps_error _

theorem keepsPatterns (h : BeginAlike bound tokens tokens') (steps : Nat) :
    KeepsPatterns bound tokens tokens' steps := by
  induction steps with
  | zero => constructor <;> exact fun _ => keeps_error _
  | succ steps ih =>
    exact ⟨keeps_bindingPattern h ih, keeps_objectProperty h ih, keeps_objectPattern h ih,
      keeps_arrayPattern h ih⟩

theorem keeps_variableDeclarations (h : BeginAlike bound tokens tokens') (steps i : Nat) :
    Keeps bound i (variableDeclarations tokens steps i) (variableDeclarations tokens' steps i) := by
  induction steps generalizing i with
  | zero => exact keeps_error _
  | succ steps ih =>
    rw [variableDeclarations, variableDeclarations]
    refine ((keepsPatterns h steps).binding i).bind fun r _ _ => ?_
    refine (keeps_skipDeclaratorTail h steps r).bind fun after _ _ => ?_
    refine keeps_ite (fun hle => by rw [isPunctuator_alike h hle]) (fun _ => ?_) fun _ =>
      keeps_pure (Nat.le_refl after)
    exact (ih (after + 1)).mono (Nat.le_succ after)

end Patterns

end ByIndex

end RouteTable.Exports
