import RouteTable.Proofs.Exports.Indices
import RouteTable.Proofs.Exports.Lookahead

/-!
The readers by indices beside those by places. With steps for every token that is to come, three for
each and a few more, both record the same names and come to the same place or refuse with the same
error: none of the readers by indices spends its steps, and none of them goes on past the end of the
tokens.
-/

namespace RouteTable.Exports

open Script

/-- The place in front of the token at an index. -/
def placeAt (tokens : List Token) (i : Nat) : Place :=
  ⟨lastOf none (tokens.take i), tokens.drop i⟩

section Places

variable {tokens : List Token} {i : Nat}

@[simp] theorem first?_placeAt : (placeAt tokens i).first? = tokens[i]? := by
  rw [Place.first?, placeAt, List.head?_drop]

@[simp] theorem next_placeAt : (placeAt tokens i).next = placeAt tokens (i + 1) := by
  by_cases h : i < tokens.length
  · rw [placeAt, List.drop_eq_getElem_cons h, Place.next, placeAt,
      List.take_succ_eq_append_getElem h, lastOf_append, lastOf_cons, lastOf_nil]
  · have hle : tokens.length ≤ i := Nat.le_of_not_lt h
    rw [placeAt, placeAt, List.drop_eq_nil_of_le hle, List.drop_eq_nil_of_le (by omega),
      List.take_of_length_le hle, List.take_of_length_le (by omega)]
    rfl

@[simp] theorem isPunctuator_placeAt (text : String) :
    (placeAt tokens i).isPunctuator text = ByIndex.isPunctuator tokens i text := by
  rw [Place.isPunctuator, first?_placeAt, ByIndex.isPunctuator]

@[simp] theorem isName_placeAt (name : String) :
    (placeAt tokens i).isName name = ByIndex.isName tokens i name := by
  rw [Place.isName, first?_placeAt, ByIndex.isName]

@[simp] theorem isAnyName_placeAt :
    (placeAt tokens i).isAnyName = ByIndex.isAnyName tokens i := by
  rw [Place.isAnyName, first?_placeAt, ByIndex.isAnyName]

end Places

namespace ByIndex

section Bounds

variable {tokens : List Token} {i : Nat}

theorem lt_length_of_getElem? {token : Token} (h : tokens[i]? = some token) : i < tokens.length :=
  (List.getElem?_eq_some_iff.1 h).1

theorem lt_length_of_any {test : Token → Bool} (h : tokens[i]?.any test = true) :
    i < tokens.length := by
  obtain ⟨token, htoken, -⟩ := (Option.any_eq_true _ _).1 h
  exact lt_length_of_getElem? htoken

end Bounds

/-- An index that is not past the end of the tokens, and its place. -/
structure At (tokens : List Token) (i : Nat) (place : Place) : Prop where
  le : i ≤ tokens.length
  eq : place = placeAt tokens i

section At

variable {tokens : List Token} {i r : Nat} {place later : Place}

theorem at_start (tokens : List Token) : At tokens 0 (.start tokens) :=
  ⟨Nat.zero_le _, rfl⟩

theorem At.first? (h : At tokens i place) : place.first? = tokens[i]? := by
  rw [h.eq, first?_placeAt]

theorem At.remaining (h : At tokens i place) : place.remaining = tokens.length - i := by
  rw [h.eq, Place.remaining, placeAt, List.length_drop]

theorem At.next (h : At tokens i place) (hlt : i < tokens.length) :
    At tokens (i + 1) place.next := by
  rw [h.eq, next_placeAt]
  exact ⟨hlt, rfl⟩

theorem At.isPunctuator (h : At tokens i place) (text : String) :
    place.isPunctuator text = ByIndex.isPunctuator tokens i text := by
  rw [h.eq, isPunctuator_placeAt]

theorem At.isName (h : At tokens i place) (name : String) :
    place.isName name = ByIndex.isName tokens i name := by
  rw [h.eq, isName_placeAt]

theorem At.isAnyName (h : At tokens i place) : place.isAnyName = ByIndex.isAnyName tokens i := by
  rw [h.eq, isAnyName_placeAt]

theorem At.previous (h : At tokens i place) (test : Token → Bool) :
    place.previous.any test = (0 < i && tokens[i - 1]?.any test) := by
  rw [h.eq]
  cases i with
  | zero => rfl
  | succ j =>
    have hj : j < tokens.length := h.le
    rw [placeAt, List.take_succ_eq_append_getElem hj, lastOf_append, lastOf_cons, lastOf_nil,
      Nat.add_sub_cancel, List.getElem?_eq_getElem hj]
    simp

/-- The token at the index, and what stands behind it. -/
theorem At.rest (h : At tokens i place) {token : Token} (hfirst : tokens[i]? = some token) :
    place.rest = token :: place.next.rest ∧ place.next.previous = some token :=
  rest_of_first? (h.first?.trans hfirst)

theorem At.rest_end (h : At tokens i place) (hfirst : tokens[i]? = none) : place.rest = [] :=
  rest_eq_nil_of_first? (h.first?.trans hfirst)

/-- The index of a place further on is greater. -/
theorem At.lt (h : At tokens i place) (hlater : At tokens r later)
    (hlt : later.remaining < place.remaining) : i < r := by
  rw [h.remaining, hlater.remaining] at hlt
  omega

theorem At.le_of_remaining_le (h : At tokens i place) (hlater : At tokens r later)
    (hle : later.remaining ≤ place.remaining) : i ≤ r := by
  have hi := h.le
  have hr := hlater.le
  rw [h.remaining, hlater.remaining] at hle
  omega

end At

/-- A reader by indices that records what a scan records and stops as it does: with a related
result, or refusing with the same error. -/
inductive Mirrors {ι α : Type} (related : ι → α → Prop) : Walk ι → Scan α → Prop where
  | ok {names : List String} {r : ι} {a : α} (h : related r a) :
      Mirrors related ⟨names, .ok r⟩ ⟨names, .ok a⟩
  | error {names : List String} {e : ExportError} :
      Mirrors related ⟨names, .error (.refused e)⟩ ⟨names, .error e⟩

section Mirrors

variable {ι κ α β : Type} {related : ι → α → Prop} {related' : κ → β → Prop}
  {tokens : List Token} {i : Nat} {place : Place}

theorem mirrors_pure {r : ι} {a : α} (h : related r a) : Mirrors related (pure r) (pure a) :=
  .ok h

theorem mirrors_refuse (h : At tokens i place) (rule : ExportRule) :
    Mirrors related (refuse tokens i rule) (.fail place rule) := by
  rw [Scan.fail, h.first?]
  exact .error

theorem mirrors_refuseFound (h : At tokens i place) (rule : Found → ExportRule) :
    Mirrors related (refuseFound tokens i rule) (.failFound place rule) := by
  rw [Scan.failFound, h.first?]
  exact mirrors_refuse h _

theorem Mirrors.bind {found : Walk ι} {read : Scan α} {next : ι → Walk κ} {next' : α → Scan β}
    (h : Mirrors related found read)
    (hnext : ∀ r a, related r a → Mirrors related' (next r) (next' a)) :
    Mirrors related' (found >>= next) (read >>= next') := by
  cases h with
  | error => exact .error
  | @ok names r a hrelated =>
    have hlast := hnext r a hrelated
    rw [Reporting.bind_ok, Reporting.bind_ok]
    revert hlast
    generalize next r = walk, next' a = scan
    rintro (h | _)
    · exact .ok h
    · exact .error

/-- What mirrors a pure result is pure. -/
theorem Mirrors.eq_pure {found : Walk ι} {a : α} (h : Mirrors related found (pure a)) :
    ∃ r, found = pure r ∧ related r a := by
  generalize hpure : (pure a : Scan α) = scan at h
  cases h with
  | error => cases hpure
  | @ok names r a' hrelated =>
    cases hpure
    exact ⟨r, rfl, hrelated⟩

/-- Going on from a reader that mirrors a pure result. -/
theorem Mirrors.bind_pure {found : Walk ι} {a : α} {next : ι → Walk κ} {read : Scan β}
    (h : Mirrors related found (pure a))
    (hnext : ∀ r, related r a → Mirrors related' (next r) read) :
    Mirrors related' (found >>= next) read := by
  obtain ⟨r, rfl, hrelated⟩ := h.eq_pure
  exact hnext r hrelated

/-- What a scan does last, to its result alone, needs no step. -/
theorem Mirrors.bind_last {found : Walk ι} {read : Scan α} {next' : α → Scan β}
    {related' : ι → β → Prop} (h : Mirrors related found read)
    (hnext : ∀ r a, related r a → Mirrors related' (pure r) (next' a)) :
    Mirrors related' found (read >>= next') := by
  have hbind := h.bind hnext
  obtain ⟨names, _ | r⟩ := found
  · exact hbind
  · have hpure : (⟨names, .ok r⟩ >>= pure : Walk ι) = ⟨names, .ok r⟩ := by
      rw [Reporting.bind_ok, Reporting.pure_eq, List.append_nil]
    rwa [hpure] at hbind

theorem mirrors_record_bind {name : String} {next : Unit → Walk ι} {next' : Unit → Scan α}
    (h : Mirrors related (next ()) (next' ())) :
    Mirrors related (record name >>= next) (Scan.record name >>= next') := by
  have hrecord : Mirrors (fun _ _ => True) (record name) (Scan.record name) := .ok trivial
  exact hrecord.bind fun _ _ _ => h

/-- Both look at the same thing, be it that the scan keeps what it has seen. -/
theorem mirrors_dite {c c' : Prop} [Decidable c] [Decidable c'] {found found' : Walk ι}
    {read : c' → Scan α} {read' : ¬c' → Scan α} (hc : c' ↔ c)
    (hfirst : ∀ h, c → Mirrors related found (read h))
    (hsecond : ∀ h, ¬c → Mirrors related found' (read' h)) :
    Mirrors related (if c then found else found') (if h : c' then read h else read' h) := by
  by_cases h : c
  · rw [if_pos h, dif_pos (hc.2 h)]
    exact hfirst _ h
  · rw [if_neg h, dif_neg fun h' => h (hc.1 h')]
    exact hsecond _ h

theorem mirrors_ite_of_iff {c c' : Prop} [Decidable c] [Decidable c'] {found found' : Walk ι}
    {read read' : Scan α} (hc : c' ↔ c) (hfirst : c → Mirrors related found read)
    (hsecond : ¬c → Mirrors related found' read') :
    Mirrors related (if c then found else found') (if c' then read else read') :=
  mirrors_dite hc (fun _ => hfirst) fun _ => hsecond

theorem mirrors_ite {c : Prop} [Decidable c] {found found' : Walk ι} {read read' : Scan α}
    (hfirst : c → Mirrors related found read) (hsecond : ¬c → Mirrors related found' read') :
    Mirrors related (if c then found else found') (if c then read else read') :=
  mirrors_ite_of_iff Iff.rfl hfirst hsecond

theorem mirrors_pure_ite {c : Prop} [Decidable c] {found found' : Walk ι} {a a' : α}
    (hfirst : c → Mirrors related found (pure a))
    (hsecond : ¬c → Mirrors related found' (pure a')) :
    Mirrors related (if c then found else found') (pure (if c then a else a')) := by
  rw [apply_ite (pure : α → Scan α)]
  exact mirrors_ite hfirst hsecond

/-- Looking at the token that stands at an index, and at a place. -/
theorem mirrors_first? (h : At tokens i place) {atEnd : Walk ι} {atToken : Token → Walk ι}
    {atEnd' : place.first? = none → Scan α}
    {atToken' : ∀ token, place.first? = some token → Scan α}
    (hend : ∀ hnone, Mirrors related atEnd (atEnd' hnone))
    (htoken : ∀ token hsome, tokens[i]? = some token →
      Mirrors related (atToken token) (atToken' token hsome)) :
    Mirrors related
      (match tokens[i]? with
        | none => atEnd
        | some token => atToken token)
      (match hfirst : place.first? with
        | none => atEnd' hfirst
        | some token => atToken' token hfirst) := by
  split
  · rename_i hnone
    rw [← h.first?] at hnone
    split
    · exact hend _
    · rename_i hsome
      cases hnone.symm.trans hsome
  · rename_i token hsome
    have hfirst := h.first?.trans hsome
    split
    · rename_i hnone
      cases hfirst.symm.trans hnone
    · rename_i found hfound
      cases hfirst.symm.trans hfound
      exact htoken _ _ hsome

/-- The same for readers that look for a token first, and for the end second. -/
theorem mirrors_found? (h : At tokens i place) {atEnd : Walk ι} {atToken : Token → Walk ι}
    {atEnd' : place.first? = none → Scan α}
    {atToken' : ∀ token, place.first? = some token → Scan α}
    (htoken : ∀ token hsome, tokens[i]? = some token →
      Mirrors related (atToken token) (atToken' token hsome))
    (hend : ∀ hnone, Mirrors related atEnd (atEnd' hnone)) :
    Mirrors related
      (match tokens[i]? with
        | some token => atToken token
        | none => atEnd)
      (match hfirst : place.first? with
        | some token => atToken' token hfirst
        | none => atEnd' hfirst) := by
  have hmirrors := mirrors_first? h hend htoken
  obtain ⟨previous, _ | ⟨first, rest⟩⟩ := place <;> cases hfirst : tokens[i]? <;>
    rwa [hfirst] at hmirrors

end Mirrors

section Skippers

variable {tokens : List Token} {steps i : Nat} {place : Place}

theorem mirrors_skipBalanced {depth : Nat} (h : At tokens i place)
    (hsteps : tokens.length - i < steps) :
    Mirrors (At tokens) (skipBalanced tokens steps depth i)
      (pure (passGroupFrom depth place.previous place.rest)) := by
  induction steps generalizing depth i place with
  | zero => omega
  | succ steps ih =>
    rw [skipBalanced]
    cases hfirst : tokens[i]? with
    | none =>
      have hrest := h.rest_end hfirst
      rw [hrest, passGroupFrom, ← hrest]
      exact mirrors_pure h
    | some token =>
      have hlt := lt_length_of_getElem? hfirst
      have hnext := h.next hlt
      obtain ⟨hrest, hprevious⟩ := h.rest hfirst
      have hlater : ∀ depth, Mirrors (At tokens) (skipBalanced tokens steps depth (i + 1))
          (pure (passGroupFrom depth (some token) place.next.rest)) := by
        intro depth
        rw [← hprevious]
        exact ih hnext (by omega)
      rw [hrest, passGroupFrom]
      dsimp only
      refine mirrors_pure_ite (fun _ => hlater _) fun _ => ?_
      refine mirrors_pure_ite (fun _ => ?_) fun _ => hlater _
      by_cases hlast : depth ≤ 1
      · rw [if_pos (by omega), if_pos hlast, ← hprevious]
        exact mirrors_pure hnext
      · rw [if_neg (by omega), if_neg hlast]
        exact hlater _

theorem mirrors_passGroup (h : At tokens i place) (hsteps : tokens.length - i < steps) :
    Mirrors (At tokens) (skipBalanced tokens steps 0 i) (pure (passGroup place)) :=
  mirrors_skipBalanced h hsteps

/-- Behind a group, the index is greater than at the token that the group starts with. -/
theorem At.lt_of_passGroup {token : Token} {r : Nat} (h : At tokens i place)
    (hfirst : tokens[i]? = some token) (hgroup : At tokens r (passGroup place)) : i < r :=
  h.lt hgroup (remaining_passGroup_lt (h.first?.trans hfirst))

theorem mirrors_typeArgumentsFrom {start depth : Nat} (hstart : start < i) (h : At tokens i place)
    (hsteps : tokens.length - i + 1 < steps) :
    Mirrors (Option.Rel (At tokens)) (typeArgumentsFrom tokens start steps depth i)
      (pure (Exports.typeArgumentsFrom depth place)) := by
  induction steps generalizing depth i place with
  | zero => omega
  | succ steps ih =>
    rw [typeArgumentsFrom]
    cases hfirst : tokens[i]? with
    | none =>
      rw [typeArgumentsFrom_of_none (h.first?.trans hfirst)]
      exact mirrors_pure .none
    | some token =>
      have hlt := lt_length_of_getElem? hfirst
      have hnext := h.next hlt
      have hlater : ∀ depth, Mirrors (Option.Rel (At tokens))
          (typeArgumentsFrom tokens start steps depth (i + 1))
          (pure (Exports.typeArgumentsFrom depth place.next)) := fun depth =>
        ih (by omega) hnext (by omega)
      rw [typeArgumentsFrom_of_first? (h.first?.trans hfirst)]
      simp only [hstart, decide_true, Bool.true_and]
      refine mirrors_pure_ite (fun _ => mirrors_pure .none) fun _ => ?_
      refine mirrors_pure_ite (fun _ => ?_) fun _ => ?_
      · refine (mirrors_passGroup h (by omega)).bind_pure fun r hr => ?_
        have hpast := h.lt_of_passGroup hfirst hr
        exact ih (by omega) hr (by omega)
      refine mirrors_pure_ite (fun _ => hlater _) fun _ => ?_
      refine mirrors_pure_ite (fun _ => ?_) fun _ => ?_
      · by_cases hinside : closedAngles token < depth
        · rw [if_neg (by omega), if_pos hinside, takeAway, if_pos (by omega)]
          exact hlater _
        · rw [if_pos (by omega), if_neg hinside]
          split
          · exact mirrors_pure (.some hnext)
          · exact mirrors_pure .none
      · exact mirrors_pure_ite (fun _ => hlater _) fun _ => mirrors_pure .none

/-- Behind an angle bracket at its start, the search for type arguments is the one that a place
behind it starts. -/
theorem mirrors_typeArgumentsEnd (h : At tokens i place) (hsteps : tokens.length - i + 1 < steps)
    (hangle : isPunctuator tokens i "<" = true) :
    Mirrors (Option.Rel (At tokens)) (typeArgumentsEnd tokens steps i)
      (pure (typeArguments? place)) := by
  obtain ⟨steps, rfl⟩ := Nat.exists_eq_succ_of_ne_zero (Nat.ne_of_gt (Nat.zero_lt_of_lt hsteps))
  obtain ⟨token, hfirst, htoken⟩ := (Option.any_eq_true _ _).1 hangle
  have hlt := lt_length_of_getElem? hfirst
  have hvalue := (kind_of_isPunctuator htoken).2
  have hopener := (notBracket_of_value (by rw [hvalue]; decide)).1
  have hstatement := opensStatement_of_punctuator (kind_of_isPunctuator htoken).1
  have hfound : typeArgumentsFrom tokens i (steps + 1) 0 i =
      typeArgumentsFrom tokens i steps 1 (i + 1) := by
    rw [typeArgumentsFrom, hfirst]
    simp [hopener, htoken]
  have hread : Exports.typeArgumentsFrom 0 place = Exports.typeArgumentsFrom 1 place.next := by
    rw [typeArgumentsFrom_of_first? (h.first?.trans hfirst)]
    simp [hopener, htoken, hstatement]
  rw [typeArgumentsEnd, typeArguments?, h.previous, hfound, hread]
  refine mirrors_pure_ite (fun _ => ?_) fun _ => mirrors_pure .none
  exact mirrors_typeArgumentsFrom (Nat.lt_succ_self i) (h.next hlt) (by omega)

theorem mirrors_skipExpression {ends : Token → Bool} (h : At tokens i place)
    (hsteps : tokens.length - i + 2 < steps) :
    Mirrors (At tokens) (skipExpression tokens ends steps i)
      (pure (passExpression ends place)) := by
  induction steps generalizing i place with
  | zero => omega
  | succ steps ih =>
    rw [skipExpression]
    cases hfirst : tokens[i]? with
    | none =>
      rw [passExpression_of_none (h.first?.trans hfirst)]
      exact mirrors_pure h
    | some token =>
      have hlt := lt_length_of_getElem? hfirst
      have hlater := ih (h.next hlt) (by omega)
      rw [passExpression_of_first? (h.first?.trans hfirst)]
      refine mirrors_pure_ite (fun _ => mirrors_pure h) fun _ => ?_
      refine mirrors_pure_ite (fun _ => ?_) fun _ => ?_
      · refine (mirrors_passGroup h (by omega)).bind_pure fun r hr => ?_
        have hpast := h.lt_of_passGroup hfirst hr
        exact ih hr (by omega)
      refine mirrors_pure_ite (fun hangle => ?_) fun _ => hlater
      have hat : isPunctuator tokens i "<" = true := by
        rw [isPunctuator, hfirst]
        exact hangle
      refine (mirrors_typeArgumentsEnd h (by omega) hat).bind_pure fun found hfound => ?_
      cases htypes : typeArguments? place with
      | none =>
        rw [htypes] at hfound
        cases hfound
        exact hlater
      | some later =>
        rw [htypes] at hfound
        cases hfound with
        | some hr =>
          have hpast := h.lt hr (remaining_typeArguments?_lt htypes)
          exact ih hr (by omega)

theorem mirrors_skipAnnotatedType {angles : Nat} (h : At tokens i place)
    (hsteps : tokens.length - i + 1 < steps) :
    Mirrors (At tokens) (skipAnnotatedType tokens steps angles i)
      (pure (passAnnotatedType angles place)) := by
  induction steps generalizing angles i place with
  | zero => omega
  | succ steps ih =>
    rw [skipAnnotatedType]
    cases hfirst : tokens[i]? with
    | none =>
      rw [passAnnotatedType_of_none (h.first?.trans hfirst)]
      exact mirrors_pure h
    | some token =>
      have hlt := lt_length_of_getElem? hfirst
      have hlater : ∀ angles, Mirrors (At tokens) (skipAnnotatedType tokens steps angles (i + 1))
          (pure (passAnnotatedType angles place.next)) := fun angles =>
        ih (h.next hlt) (by omega)
      rw [passAnnotatedType_of_first? (h.first?.trans hfirst)]
      refine mirrors_pure_ite (fun _ => mirrors_pure h) fun _ => ?_
      refine mirrors_pure_ite (fun _ => ?_) fun _ => ?_
      · refine (mirrors_passGroup h (by omega)).bind_pure fun r hr => ?_
        have hpast := h.lt_of_passGroup hfirst hr
        exact ih hr (by omega)
      refine mirrors_pure_ite (fun _ => hlater _) fun _ => ?_
      refine mirrors_pure_ite (fun _ => hlater _) fun _ => ?_
      refine mirrors_pure_ite (fun _ => mirrors_pure h) fun _ => ?_
      exact mirrors_pure_ite (fun _ => mirrors_pure h) fun _ => hlater _

theorem mirrors_skipOptionalDefault (h : At tokens i place)
    (hsteps : tokens.length - i + 2 < steps) :
    Mirrors (At tokens) (skipOptionalDefault tokens steps i)
      (pure (passOptionalDefault place)) := by
  rw [skipOptionalDefault, passOptionalDefault, h.isPunctuator]
  refine mirrors_pure_ite (fun hassign => ?_) fun _ => mirrors_pure h
  have hlt := lt_length_of_any hassign
  exact mirrors_skipExpression (h.next hlt) (by omega)

theorem mirrors_skipOptionalType (h : At tokens i place) (hsteps : tokens.length - i + 2 < steps) :
    Mirrors (At tokens)
      (skipOptionalType tokens steps (if isPunctuator tokens i "!" then i + 1 else i))
      (pure (passOptionalType place)) := by
  obtain ⟨next, asserted, hasserted, hle, hfound, hread⟩ : ∃ next asserted,
      At tokens next asserted ∧ i ≤ next ∧
      (if isPunctuator tokens i "!" then i + 1 else i) = next ∧
      (if place.isPunctuator "!" then place.next else place) = asserted := by
    rw [h.isPunctuator]
    split
    · rename_i hmark
      exact ⟨_, _, h.next (lt_length_of_any hmark), Nat.le_succ i, rfl, rfl⟩
    · exact ⟨_, _, h, Nat.le_refl i, rfl, rfl⟩
  rw [skipOptionalType, passOptionalType, hfound, hread, hasserted.isPunctuator]
  refine mirrors_pure_ite (fun hcolon => ?_) fun _ => mirrors_pure hasserted
  have hlt := lt_length_of_any hcolon
  exact mirrors_skipAnnotatedType (hasserted.next hlt) (by omega)

theorem mirrors_skipDeclaratorTail (h : At tokens i place)
    (hsteps : tokens.length - i + 2 < steps) :
    Mirrors (At tokens) (skipDeclaratorTail tokens steps i) (pure (passDeclaratorTail place)) := by
  rw [skipDeclaratorTail, passDeclaratorTail_eq]
  refine (mirrors_skipOptionalType h hsteps).bind_pure fun r hr => ?_
  have hbehind := h.le_of_remaining_le hr (passes_passOptionalType place 0).remaining_le
  rw [skipOptionalInitializer, hr.isPunctuator]
  refine mirrors_pure_ite (fun hassign => ?_) fun _ => mirrors_pure hr
  have hlt := lt_length_of_any hassign
  exact mirrors_skipExpression (hr.next hlt) (by omega)

end Skippers

end ByIndex

end RouteTable.Exports
