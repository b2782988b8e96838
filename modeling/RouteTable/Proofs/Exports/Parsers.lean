import RouteTable.Proofs.Exports.Nesting
import RouteTable.Proofs.Exports.Reach

/-!
What the readers of export statements record and how far they get. Each records names and strings
of the module alone, and goes on at a place where as many brackets are open as where it started, but
for the bracket that a pattern or a list is entered by.
-/

namespace RouteTable.Exports

open Script

/-- The names that scanning tokens can record: that of the main value, and the names and strings
among the tokens. -/
def Named (tokens : List Token) (name : String) : Prop :=
  name = Bindings.defaultName ∨
    ∃ token ∈ tokens, (token.kind = .name ∨ token.kind = .string) ∧ token.value = name

/-- A scan that records names of some tokens, whether it fails or not, and gives only results of
some kind. -/
structure Meets {α : Type} (tokens : List Token) (scan : Scan α) (result : α → Prop) : Prop where
  named : ∀ name ∈ scan.reports, Named tokens name
  result : ∀ a, scan.outcome = .ok a → result a

section Meets

variable {α β : Type} {tokens : List Token} {result : α → Prop} {result' : β → Prop}

theorem meets_pure {a : α} (h : result a) : Meets tokens (pure a) result where
  named := by
    intro name hname
    cases hname
  result := by
    intro a' ha
    cases ha
    exact h

theorem meets_fail (place : Place) (rule : ExportRule) :
    Meets tokens (.fail place rule) result where
  named := by
    intro name hname
    cases hname
  result := by
    intro a ha
    cases ha

theorem meets_failFound (place : Place) (rule : Found → ExportRule) :
    Meets tokens (.failFound place rule) result :=
  meets_fail place _

theorem meets_record {name : String} (h : Named tokens name) :
    Meets tokens (.record name) fun _ => True where
  named := by
    intro name' hname
    cases List.mem_singleton.1 hname
    exact h
  result := fun _ _ => trivial

theorem Meets.bind {first : Scan α} {next : α → Scan β} (hfirst : Meets tokens first result)
    (hnext : ∀ a, result a → Meets tokens (next a) result') :
    Meets tokens (first >>= next) result' := by
  obtain ⟨reports, outcome⟩ := first
  cases outcome with
  | error e =>
    refine ⟨hfirst.named, ?_⟩
    intro b hb
    cases hb
  | ok a =>
    have ha := hnext a (hfirst.result a rfl)
    refine ⟨?_, ha.result⟩
    intro name hname
    rcases List.mem_append.1 hname with hname | hname
    · exact hfirst.named name hname
    · exact ha.named name hname

theorem Meets.map {scan : Scan α} {f : α → β} (hscan : Meets tokens scan result)
    (hf : ∀ a, result a → result' (f a)) : Meets tokens (f <$> scan) result' := by
  rw [map_eq_pure_bind]
  exact hscan.bind fun a ha => meets_pure (hf a ha)

/-- Recording a name before going on. -/
theorem meets_record_bind {name : String} {next : Unit → Scan α} (h : Named tokens name)
    (hnext : Meets tokens (next ()) result) : Meets tokens (.record name >>= next) result :=
  (meets_record h).bind fun _ _ => hnext

theorem meets_ite {c : Prop} [Decidable c] {first second : Scan α}
    (hfirst : c → Meets tokens first result) (hsecond : ¬c → Meets tokens second result) :
    Meets tokens (if c then first else second) result := by
  split
  · rename_i h
    exact hfirst h
  · rename_i h
    exact hsecond h

/-- What a reader passes from a later place on, it passes from the place before. -/
theorem Meets.from {place start : Place} {scan : Scan start.Beyond}
    {later : start.Beyond → place.Beyond}
    (hscan : Meets tokens scan fun last => Passes start last.1 0 0)
    (hstart : Passes place start 0 0) (hlater : ∀ last, (later last).1 = last.1) :
    Meets tokens (later <$> scan) fun last => Passes place last.1 0 0 := by
  apply hscan.map
  intro last hlast
  rw [hlater]
  exact hstart.trans hlast

end Meets

section Names

variable {tokens : List Token} {place : Place} {token : Token}

theorem mem_of_first? (hmem : place.rest ⊆ tokens) (h : place.first? = some token) :
    token ∈ tokens := by
  apply hmem
  rw [(rest_of_first? h).1]
  exact List.mem_cons_self

theorem isAnyName_of_first? (h : place.first? = some token) (hname : token.isAnyName = true) :
    place.isAnyName = true := by
  rwa [Place.isAnyName, h]

theorem exists_first?_of_isAnyName (h : place.isAnyName = true) :
    ∃ token, place.first? = some token ∧ token.isAnyName = true := by
  rcases hfirst : place.first? with _ | token
  · simp [Place.isAnyName, hfirst] at h
  · rw [Place.isAnyName, hfirst] at h
    exact ⟨token, rfl, h⟩

theorem named_of_first? (hmem : place.rest ⊆ tokens) (h : place.first? = some token)
    (hname : token.isAnyName = true) : Named tokens token.value := by
  refine Or.inr ⟨token, mem_of_first? hmem h, Or.inl ?_, rfl⟩
  simpa [Token.isAnyName] using hname

end Names

variable {tokens : List Token}

theorem passes_passOptionalDefault (place : Place) (before : Nat) :
    Passes place (passOptionalDefault place) before before := by
  unfold passOptionalDefault
  split
  · rename_i hassign
    exact (passes_mark hassign (by decide)).trans (passes_passDefault _ before)
  · exact .refl place before

theorem meets_passKey (place : Place) :
    Meets tokens (passKey place) fun later => Passes place later.1 0 0 := by
  unfold passKey
  split
  · exact meets_fail _ _
  · rename_i key hkey
    split
    · rename_i hcomputed
      exact meets_pure (passes_group (isPunctuator_of_first? hkey hcomputed) (by decide) 0)
    · split
      · rename_i hkind
        apply meets_pure
        apply passes_plain hkey
        apply notBracket_of_kind
        intro hpunctuator
        rw [hpunctuator] at hkind
        cases hkind
      · exact meets_failFound _ _

-- The readers of patterns call one another, so that these four go along the same measures as they.
mutual

theorem meets_bindingTarget {place : Place} (hmem : place.rest ⊆ tokens) :
    Meets tokens (bindingTarget place) fun later => Passes place later.1 0 0 := by
  rw [bindingTarget]
  split
  · exact meets_fail _ _
  · rename_i token hf
    have hnext := Place.remaining_next_lt hf
    dsimp only
    split
    · rename_i hname
      apply meets_record_bind (named_of_first? hmem hf hname)
      exact meets_pure (passes_name (isAnyName_of_first? hf hname))
    · split
      · rename_i hbrace
        have hopens : Passes place place.next 0 1 :=
          passes_open (isPunctuator_of_first? hf hbrace) (by decide)
        apply (meets_objectBindings (hopens.subset hmem)).bind
        rintro ⟨after, hafter⟩ hpasses
        exact meets_pure (hopens.trans hpasses)
      · split
        · rename_i hbracket
          have hopens : Passes place place.next 0 1 :=
            passes_open (isPunctuator_of_first? hf hbracket) (by decide)
          apply (meets_arrayBindings (hopens.subset hmem)).bind
          rintro ⟨after, hafter⟩ hpasses
          exact meets_pure (hopens.trans hpasses)
        · exact meets_failFound _ _
termination_by (place.remaining, 0)
decreasing_by
  all_goals exact Prod.Lex.left _ _ hnext

theorem meets_objectProperty {place : Place} (hmem : place.rest ⊆ tokens) :
    Meets tokens (objectProperty place) fun later => Passes place later.1 0 0 := by
  rw [objectProperty]
  split
  · rename_i hrest
    have hlt := Place.remaining_next_lt_of_isPunctuator hrest
    have hpoints : Passes place place.next 0 0 := passes_mark hrest (by decide)
    apply (meets_bindingTarget (hpoints.subset hmem)).bind
    rintro ⟨after, hafter⟩ hpasses
    exact meets_pure (hpoints.trans hpasses)
  · split
    · rename_i hname
      obtain ⟨token, hf, hany⟩ := exists_first?_of_isAnyName hname.1
      apply meets_record_bind
      · rw [hf]
        exact named_of_first? hmem hf hany
      · exact meets_pure ((passes_name hname.1).trans (passes_passOptionalDefault _ 0))
    · apply (meets_passKey place).bind
      rintro ⟨colon, hcolon⟩ hkey
      dsimp only
      have hlt := Nat.lt_of_le_of_lt colon.remaining_next_le hcolon
      split
      · rename_i hmark
        have hnext : Passes place colon.next 0 0 := hkey.trans (passes_mark hmark (by decide))
        apply (meets_bindingTarget (hnext.subset hmem)).bind
        rintro ⟨after, hafter⟩ hpasses
        exact meets_pure ((hnext.trans hpasses).trans (passes_passOptionalDefault after 0))
      · exact meets_fail _ _
termination_by (place.remaining, 1)
decreasing_by
  all_goals exact Prod.Lex.left _ _ hlt

theorem meets_objectBindings {place : Place} (hmem : place.rest ⊆ tokens) :
    Meets tokens (objectBindings place) fun later => Passes place later.1 1 0 := by
  rw [objectBindings]
  split
  · rename_i hend
    exact meets_pure (passes_close hend (by decide))
  · apply (meets_objectProperty hmem).bind
    rintro ⟨after, hafter⟩ hproperty
    dsimp only
    have hlt := Nat.lt_of_le_of_lt after.remaining_next_le hafter
    have hinside := hproperty.within 1
    split
    · rename_i hcomma
      have hnext : Passes place after.next 1 1 := hinside.trans (passes_mark hcomma (by decide))
      apply (meets_objectBindings (hnext.subset hmem)).bind
      rintro ⟨last, hlast⟩ hpasses
      exact meets_pure (hnext.trans hpasses)
    · split
      · rename_i hend
        exact meets_pure (hinside.trans (passes_close hend (by decide)))
      · exact meets_failFound _ _
termination_by (place.remaining, 2)
decreasing_by
  · exact Prod.Lex.right _ (by decide)
  · exact Prod.Lex.left _ _ hlt

theorem meets_arrayBindings {place : Place} (hmem : place.rest ⊆ tokens) :
    Meets tokens (arrayBindings place) fun later => Passes place later.1 1 0 := by
  rw [arrayBindings]
  split
  · rename_i hend
    exact meets_pure (passes_close hend (by decide))
  · split
    · rename_i hhole
      have hlt := Place.remaining_next_lt_of_isPunctuator hhole
      have hnext : Passes place place.next 1 1 := passes_mark hhole (by decide)
      apply (meets_arrayBindings (hnext.subset hmem)).bind
      rintro ⟨last, hlast⟩ hpasses
      exact meets_pure (hnext.trans hpasses)
    · dsimp only
      let element : { p : Place // p.remaining ≤ place.remaining } :=
        if place.isPunctuator "..." then ⟨place.next, place.remaining_next_le⟩
        else ⟨place, Nat.le_refl _⟩
      have hstart : Passes place element.1 0 0 := by
        unfold element
        split
        · rename_i hpoints
          exact passes_mark hpoints (by decide)
        · exact .refl place 0
      have hle := element.2
      apply (meets_bindingTarget (hstart.subset hmem)).bind
      rintro ⟨bound, hbound⟩ hpasses
      have hafter : (passOptionalDefault bound).remaining < place.remaining :=
        Nat.lt_of_le_of_lt (remaining_passOptionalDefault_le _) (Nat.lt_of_lt_of_le hbound hle)
      have hlt := Nat.lt_of_le_of_lt (Place.remaining_next_le _) hafter
      have hinside := ((hstart.trans hpasses).trans (passes_passOptionalDefault bound 0)).within 1
      dsimp only
      split
      · rename_i hcomma
        have hnext := hinside.trans (passes_mark hcomma (by decide))
        apply (meets_arrayBindings (hnext.subset hmem)).bind
        rintro ⟨last, hlast⟩ hlater
        exact meets_pure (hnext.trans hlater)
      · split
        · rename_i hend
          exact meets_pure (hinside.trans (passes_close hend (by decide)))
        · exact meets_failFound _ _
termination_by (place.remaining, 2)
decreasing_by
  · rcases Nat.lt_or_eq_of_le hle with h | h
    · exact Prod.Lex.left _ _ h
    · rw [h]
      exact Prod.Lex.right _ (by decide)
  all_goals exact Prod.Lex.left _ _ hlt

end

end RouteTable.Exports
