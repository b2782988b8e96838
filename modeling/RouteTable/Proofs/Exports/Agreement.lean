import RouteTable.Proofs.Exports.Lookahead

/-!
Two scans that agree: where the first succeeds, the second records the same names and comes to the
same place, with more tokens behind. The readers of binding patterns agree with themselves when a
semicolon and further tokens stand behind the tokens that they are given.
-/

namespace RouteTable.Exports

open Script

/-- Whether a scan, where another one succeeds, records the same names and gives a related
result. -/
def Agrees {α β : Type} (scan : Scan α) (scan' : Scan β) (related : α → β → Prop) : Prop :=
  ∀ a, scan.outcome = .ok a → ∃ b, scan' = ⟨scan.reports, .ok b⟩ ∧ related a b

/-- Whether a scan, where another one succeeds, records the same names and goes on at the same
place, with more tokens behind. -/
abbrev GoesOn (more : List Token) {holds holds' : Place → Prop} (scan : Scan { p // holds p })
    (scan' : Scan { p // holds' p }) : Prop :=
  Agrees scan scan' fun later later' => later'.1 = later.1.followedBy more

section Agrees

variable {α β γ δ : Type} {related : α → β → Prop} {related' : γ → δ → Prop}

theorem agrees_pure {a : α} {b : β} (h : related a b) : Agrees (pure a) (pure b) related := by
  intro a' ha
  cases ha
  exact ⟨b, rfl, h⟩

theorem agrees_fail (place : Place) (rule : ExportRule) (scan' : Scan β) :
    Agrees (.fail place rule) scan' related := by
  intro a ha
  cases ha

theorem agrees_failFound (place : Place) (rule : Found → ExportRule) (scan' : Scan β) :
    Agrees (.failFound place rule) scan' related :=
  agrees_fail place _ scan'

theorem Agrees.bind {first : Scan α} {first' : Scan β} {next : α → Scan γ} {next' : β → Scan δ}
    (hfirst : Agrees first first' related)
    (hnext : ∀ a b, first.outcome = .ok a → related a b → Agrees (next a) (next' b) related') :
    Agrees (first >>= next) (first' >>= next') related' := by
  obtain ⟨reports, outcome⟩ := first
  cases outcome with
  | error e =>
    intro c hc
    cases hc
  | ok a =>
    intro c hc
    obtain ⟨b, rfl, hrelated⟩ := hfirst a rfl
    obtain ⟨d, hd, hlast⟩ := hnext a b rfl hrelated c hc
    refine ⟨d, ?_, hlast⟩
    rw [Reporting.bind_ok, Reporting.bind_ok, hd]

theorem Agrees.map {scan : Scan α} {scan' : Scan β} {f : α → γ} {f' : β → δ}
    (h : Agrees scan scan' related) (hf : ∀ a b, related a b → related' (f a) (f' b)) :
    Agrees (f <$> scan) (f' <$> scan') related' := by
  rw [map_eq_pure_bind, map_eq_pure_bind]
  apply h.bind
  intro a b _ hrelated
  exact agrees_pure (hf a b hrelated)

theorem agrees_record_bind {name : String} {next : Unit → Scan α} {next' : Unit → Scan β}
    (h : Agrees (next ()) (next' ()) related) :
    Agrees (.record name >>= next) (.record name >>= next') related := by
  intro a ha
  obtain ⟨b, hb, hrelated⟩ := h a ha
  refine ⟨b, ?_, hrelated⟩
  rw [Scan.record, Reporting.report, Reporting.bind_ok, Reporting.bind_ok, hb]

theorem agrees_ite {c c' : Prop} [Decidable c] [Decidable c'] (hc : c' ↔ c)
    {first second : Scan α} {first' second' : Scan β}
    (hfirst : c → Agrees first first' related) (hsecond : ¬c → Agrees second second' related) :
    Agrees (if c then first else second) (if c' then first' else second') related := by
  by_cases h : c
  · rw [if_pos h, if_pos (hc.2 h)]
    exact hfirst h
  · rw [if_neg h, if_neg (mt hc.1 h)]
    exact hsecond h

theorem agrees_dite {c c' : Prop} [Decidable c] [Decidable c'] (hc : c' ↔ c)
    {first : c → Scan α} {second : ¬c → Scan α} {first' : c' → Scan β} {second' : ¬c' → Scan β}
    (hfirst : ∀ h h', Agrees (first h) (first' h') related)
    (hsecond : ∀ h h', Agrees (second h) (second' h') related) :
    Agrees (dite c first second) (dite c' first' second') related := by
  by_cases h : c
  · rw [dif_pos h, dif_pos (hc.2 h)]
    exact hfirst h _
  · rw [dif_neg h, dif_neg (mt hc.1 h)]
    exact hsecond h _

/-- What a reader leaves closes as many brackets as what it was given. -/
theorem closes_of_meets {tokens : List Token} {place : Place} {scan : Scan α} {later : α → Place}
    (hmeets : Meets tokens scan fun a => Passes place (later a) 0 0) {a : α}
    (ha : scan.outcome = .ok a) {n : Nat} (h : Closes n place.rest) : Closes n (later a).rest :=
  ((hmeets.result a ha).within n).depth 0 h

end Agrees

section Patterns

variable {more : List Token} {place : Place} {n : Nat}

theorem passOptionalDefault_followedBy (hmore : StartsWithSemicolon more) (hn : 0 < n)
    (h : Closes n place.rest) :
    passOptionalDefault (place.followedBy more) = (passOptionalDefault place).followedBy more := by
  rw [passOptionalDefault, passOptionalDefault, isPunctuator_followedBy hmore (by decide)]
  split
  · rename_i hassign
    have hnext := (passes_mark hassign (by decide)).depth 0 h
    rw [next_followedBy_of_any hassign, passDefault_followedBy hmore hn hnext]
  · rfl

theorem goesOn_passKey (h : Closes n place.rest) :
    GoesOn more (passKey place) (passKey (place.followedBy more)) := by
  obtain ⟨previous, _ | ⟨key, rest⟩⟩ := place
  · unfold passKey
    exact agrees_fail _ _ _
  · unfold passKey
    dsimp only [Place.first?, Place.followedBy, List.cons_append, List.head?_cons]
    refine agrees_ite Iff.rfl (fun hbracket => ?_) fun _ => ?_
    · have hopener : key.isOpener = true := by
        obtain ⟨hkind, hvalue⟩ := kind_of_isPunctuator hbracket
        apply isOpener_of_value hkind
        rw [hvalue]
        decide
      exact agrees_pure (passGroup_followedBy rfl hopener h)
    · refine agrees_ite Iff.rfl (fun _ => agrees_pure rfl) fun _ => ?_
      exact agrees_failFound _ _ _

-- The readers of patterns call one another, so that these four go along the same measures as they.
mutual

theorem goesOn_bindingTarget (hmore : StartsWithSemicolon more) {place place' : Place} {n : Nat}
    (hplace : place' = place.followedBy more) (h : Closes n place.rest) :
    GoesOn more (bindingTarget place) (bindingTarget place') := by
  subst hplace
  rcases hplace : place with ⟨previous, _ | ⟨token, rest⟩⟩
  · rw [bindingTarget.eq_def ⟨previous, []⟩]
    exact agrees_fail _ _ _
  · rw [hplace] at h
    have hfirst : Place.first? ⟨previous, token :: rest⟩ = some token := rfl
    have hlt : Place.remaining ⟨some token, rest⟩ < place.remaining := by
      rw [hplace]
      exact Place.remaining_next_lt hfirst
    rw [bindingTarget.eq_def ⟨previous, token :: rest⟩,
      bindingTarget.eq_def (Place.followedBy ⟨previous, token :: rest⟩ more)]
    dsimp only [Place.first?, Place.followedBy, List.cons_append, List.head?_cons]
    refine agrees_ite Iff.rfl (fun _ => agrees_record_bind (agrees_pure rfl)) fun _ => ?_
    refine agrees_ite Iff.rfl (fun hbrace => ?_) fun _ => ?_
    · have hopens : Passes ⟨previous, token :: rest⟩ ⟨some token, rest⟩ n (n + 1) :=
        passes_open (isPunctuator_of_first? hfirst hbrace) (by decide)
      apply (goesOn_objectBindings hmore rfl (hopens.depth 0 h)).bind
      rintro ⟨after, hafter⟩ ⟨after', hafter'⟩ _ hlater
      exact agrees_pure hlater
    · refine agrees_ite Iff.rfl (fun hbracket => ?_) fun _ => agrees_failFound _ _ _
      have hopens : Passes ⟨previous, token :: rest⟩ ⟨some token, rest⟩ n (n + 1) :=
        passes_open (isPunctuator_of_first? hfirst hbracket) (by decide)
      apply (goesOn_arrayBindings hmore rfl (hopens.depth 0 h)).bind
      rintro ⟨after, hafter⟩ ⟨after', hafter'⟩ _ hlater
      exact agrees_pure hlater
termination_by (place.remaining, 0)
decreasing_by
  all_goals exact Prod.Lex.left _ _ hlt

theorem goesOn_objectProperty (hmore : StartsWithSemicolon more) {place place' : Place} {n : Nat}
    (hplace : place' = place.followedBy more) (hn : 0 < n) (h : Closes n place.rest) :
    GoesOn more (objectProperty place) (objectProperty place') := by
  subst hplace
  rw [objectProperty.eq_def place, objectProperty.eq_def (place.followedBy more)]
  refine agrees_dite (by rw [isPunctuator_followedBy hmore (by decide)]) ?_ ?_
  · intro hpoints _
    have hlt := Place.remaining_next_lt_of_isPunctuator hpoints
    have hnext := (passes_mark hpoints (by decide)).depth 0 h
    apply (goesOn_bindingTarget hmore (next_followedBy_of_any hpoints) hnext).bind
    rintro ⟨after, hafter⟩ ⟨after', hafter'⟩ _ hlater
    exact agrees_pure hlater
  · intro _ _
    have hshorthand : ((place.followedBy more).isAnyName = true ∧
        (!(place.followedBy more).next.isPunctuator ":") = true ↔
          place.isAnyName = true ∧ (!place.next.isPunctuator ":") = true) := by
      rw [isAnyName_followedBy hmore]
      apply and_congr_right
      intro hany
      rw [next_followedBy_of_any hany, isPunctuator_followedBy hmore (by decide)]
    refine agrees_dite hshorthand ?_ ?_
    · intro hname _
      obtain ⟨token, hfirst, -⟩ := exists_first?_of_isAnyName hname.1
      have hnext := (passes_name hname.1).depth 0 h
      rw [first?_followedBy hfirst, hfirst]
      apply agrees_record_bind
      apply agrees_pure
      dsimp only
      rw [next_followedBy hfirst, passOptionalDefault_followedBy hmore hn hnext]
    · intro _ _
      apply (goesOn_passKey h).bind
      rintro ⟨colon, hcolon⟩ ⟨_, _⟩ hkey rfl
      have hlt := Nat.lt_of_le_of_lt colon.remaining_next_le hcolon
      have hinside := closes_of_meets (@meets_passKey [] place) hkey h
      refine agrees_ite (by rw [isPunctuator_followedBy hmore (by decide)]) (fun hmark => ?_)
        fun _ => agrees_fail _ _ _
      have hnext := (passes_mark hmark (by decide)).depth 0 hinside
      apply (goesOn_bindingTarget hmore (next_followedBy_of_any hmark) hnext).bind
      rintro ⟨after, hafter⟩ ⟨_, _⟩ htarget rfl
      have hlater := closes_of_meets (meets_bindingTarget (List.Subset.refl _)) htarget hnext
      exact agrees_pure (passOptionalDefault_followedBy hmore hn hlater)
termination_by (place.remaining, 1)
decreasing_by
  all_goals exact Prod.Lex.left _ _ hlt

theorem goesOn_objectBindings (hmore : StartsWithSemicolon more) {place place' : Place} {n : Nat}
    (hplace : place' = place.followedBy more) (h : Closes (n + 1) place.rest) :
    GoesOn more (objectBindings place) (objectBindings place') := by
  subst hplace
  rw [objectBindings.eq_def place, objectBindings.eq_def (place.followedBy more)]
  refine agrees_dite (by rw [isPunctuator_followedBy hmore (by decide)]) ?_ ?_
  · intro hend _
    exact agrees_pure (next_followedBy_of_any hend)
  · intro _ _
    apply (goesOn_objectProperty hmore rfl (Nat.succ_pos n) h).bind
    rintro ⟨after, hafter⟩ ⟨_, _⟩ hproperty rfl
    have hlt := Nat.lt_of_le_of_lt after.remaining_next_le hafter
    have hinside := closes_of_meets (meets_objectProperty (List.Subset.refl _)) hproperty h
    refine agrees_ite (by rw [isPunctuator_followedBy hmore (by decide)]) (fun hcomma => ?_)
      fun _ => ?_
    · have hnext := (passes_mark hcomma (by decide)).depth 0 hinside
      apply (goesOn_objectBindings hmore (next_followedBy_of_any hcomma) hnext).bind
      rintro ⟨last, hlast⟩ ⟨last', hlast'⟩ _ hlater
      exact agrees_pure hlater
    · refine agrees_ite (by rw [isPunctuator_followedBy hmore (by decide)]) (fun hend => ?_)
        fun _ => agrees_failFound _ _ _
      exact agrees_pure (next_followedBy_of_any hend)
termination_by (place.remaining, 2)
decreasing_by
  · exact Prod.Lex.right _ (by decide)
  · exact Prod.Lex.left _ _ hlt

theorem goesOn_arrayBindings (hmore : StartsWithSemicolon more) {place place' : Place} {n : Nat}
    (hplace : place' = place.followedBy more) (h : Closes (n + 1) place.rest) :
    GoesOn more (arrayBindings place) (arrayBindings place') := by
  subst hplace
  rw [arrayBindings.eq_def place, arrayBindings.eq_def (place.followedBy more)]
  refine agrees_dite (by rw [isPunctuator_followedBy hmore (by decide)]) ?_ ?_
  · intro hend _
    exact agrees_pure (next_followedBy_of_any hend)
  · intro _ _
    refine agrees_dite (by rw [isPunctuator_followedBy hmore (by decide)]) ?_ ?_
    · intro hhole _
      have hlt := Place.remaining_next_lt_of_isPunctuator hhole
      have hnext := (passes_mark hhole (by decide)).depth 0 h
      apply (goesOn_arrayBindings hmore (next_followedBy_of_any hhole) hnext).bind
      rintro ⟨last, hlast⟩ ⟨last', hlast'⟩ _ hlater
      exact agrees_pure hlater
    · intro _ _
      dsimp only
      let element : { p : Place // p.remaining ≤ place.remaining } :=
        if place.isPunctuator "..." then ⟨place.next, place.remaining_next_le⟩
        else ⟨place, Nat.le_refl _⟩
      let element' : { p : Place // p.remaining ≤ (place.followedBy more).remaining } :=
        if (place.followedBy more).isPunctuator "..." then
          ⟨(place.followedBy more).next, (place.followedBy more).remaining_next_le⟩
        else ⟨place.followedBy more, Nat.le_refl _⟩
      have hle := element.2
      have hstart : element'.1 = element.1.followedBy more ∧ Closes (n + 1) element.1.rest := by
        unfold element element'
        rw [isPunctuator_followedBy hmore (by decide)]
        split
        · rename_i hpoints
          exact ⟨next_followedBy_of_any hpoints, (passes_mark hpoints (by decide)).depth 0 h⟩
        · exact ⟨rfl, h⟩
      apply (goesOn_bindingTarget hmore hstart.1 hstart.2).bind
      rintro ⟨bound, hbound⟩ ⟨_, _⟩ htarget rfl
      have hafter : (passOptionalDefault bound).remaining < place.remaining :=
        Nat.lt_of_le_of_lt (remaining_passOptionalDefault_le _) (Nat.lt_of_lt_of_le hbound hle)
      have hlt := Nat.lt_of_le_of_lt (Place.remaining_next_le _) hafter
      have hlater := closes_of_meets (meets_bindingTarget (List.Subset.refl _)) htarget hstart.2
      have hinside := (passes_passOptionalDefault bound (n + 1)).depth 0 hlater
      have hskip := passOptionalDefault_followedBy hmore (Nat.succ_pos n) hlater
      refine agrees_ite (by rw [hskip, isPunctuator_followedBy hmore (by decide)])
        (fun hcomma => ?_) fun _ => ?_
      · have hnext := (passes_mark hcomma (by decide)).depth 0 hinside
        have hplace := (congrArg Place.next hskip).trans (next_followedBy_of_any hcomma)
        apply (goesOn_arrayBindings hmore hplace hnext).bind
        rintro ⟨last, hlast⟩ ⟨last', hlast'⟩ _ hlater
        exact agrees_pure hlater
      · refine agrees_ite (by rw [hskip, isPunctuator_followedBy hmore (by decide)])
          (fun hend => ?_) fun _ => agrees_failFound _ _ _
        exact agrees_pure ((congrArg Place.next hskip).trans (next_followedBy_of_any hend))
termination_by (place.remaining, 2)
decreasing_by
  · exact Prod.Lex.left _ _ hlt
  · rcases Nat.lt_or_eq_of_le hle with hless | hsame
    · exact Prod.Lex.left _ _ hless
    · rw [hsame]
      exact Prod.Lex.right _ (by decide)
  · exact Prod.Lex.left _ _ hlt

end

end Patterns

end RouteTable.Exports
