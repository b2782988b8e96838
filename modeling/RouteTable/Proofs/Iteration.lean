/-!
Loops, one turn after another: where the turns lead to, and with which result they end. A loop whose
turns lower a measure ends, and one that comes to a state that it turns to again and again does not.
-/

namespace RouteTable

/-- What a turn of a loop does: it goes round again from another state, or ends with a result. -/
inductive Iteration (σ ρ : Type) where
  | again (state : σ)
  | ends (result : ρ)

namespace Iteration

variable {σ ρ : Type} {turn : σ → Iteration σ ρ} {state next later : σ} {result : ρ}

/-- Whether the state that a turn goes round again from has a property, if it does. -/
def Leads (property : σ → Prop) : Iteration σ ρ → Prop
  | .again next => property next
  | .ends _ => True

/-- The result of a turn, where the states that it may go round again from have results. -/
def outcome (value : σ → ρ) : Iteration σ ρ → ρ
  | .again next => value next
  | .ends result => result

theorem Leads.imp {property weaker : σ → Prop} {iteration : Iteration σ ρ}
    (h : iteration.Leads property) (himp : ∀ state, property state → weaker state) :
    iteration.Leads weaker := by
  cases iteration with
  | again next => exact himp next h
  | ends result => trivial

inductive Comes (turn : σ → Iteration σ ρ) : σ → σ → Prop where
  | refl (state : σ) : Comes turn state state
  | again {state next later : σ} (hturn : turn state = .again next)
      (h : Comes turn next later) : Comes turn state later

inductive Ends (turn : σ → Iteration σ ρ) : σ → ρ → Prop where
  | last {state : σ} {result : ρ} (hturn : turn state = .ends result) : Ends turn state result
  | again {state next : σ} {result : ρ} (hturn : turn state = .again next)
      (h : Ends turn next result) : Ends turn state result

/-- A loop ends with the result that it ends with from any state that it comes to. -/
theorem Ends.of_comes (h : Ends turn state result) (hcomes : Comes turn state later) :
    Ends turn later result := by
  induction hcomes with
  | refl => exact h
  | again hturn _ ih =>
    cases h with
    | last hlast => cases hturn.symm.trans hlast
    | again hagain h =>
      cases hturn.symm.trans hagain
      exact ih h

/-- A state that a loop turns to again and again is one that it never ends from. -/
theorem not_ends_of_repeats (hrepeats : turn state = .again state) : ¬ Ends turn state result := by
  intro h
  generalize hstart : state = start at h
  induction h with
  | last hlast =>
    subst hstart
    cases hrepeats.symm.trans hlast
  | again hturn _ ih =>
    subst hstart
    cases hrepeats.symm.trans hturn
    exact ih rfl

/-- A value that the turns leave as it is, and the last one gives, is the result. -/
theorem Ends.eq_value {value : σ → ρ} (h : Ends turn state result)
    (hvalue : ∀ state, (turn state).outcome value = value state) : result = value state := by
  induction h with
  | @last state result hturn =>
    have hlast := hvalue state
    rwa [hturn] at hlast
  | @again state next result hturn _ ih =>
    have hnext := hvalue state
    rw [hturn] at hnext
    exact ih.trans hnext

/-- What holds at a state, and behind each turn if it does before, holds of all states that the loop
comes to. -/
theorem Comes.holds (property : σ → Prop) (h : Comes turn state later) (hstate : property state)
    (hturn : ∀ state, property state → (turn state).Leads property) : property later := by
  induction h with
  | refl => exact hstate
  | again hagain _ ih =>
    have hnext := hturn _ hstate
    rw [hagain] at hnext
    exact ih hnext

/-- A loop ends if each turn from a state that it comes to lowers a measure. -/
theorem exists_ends (measure : σ → Nat)
    (hlower : ∀ next, Comes turn state next → (turn next).Leads (measure · < measure next)) :
    ∃ result, Ends turn state result := by
  induction hn : measure state using Nat.strongRecOn generalizing state with
  | _ n ih =>
    subst hn
    have hstate := hlower state (.refl state)
    cases hturn : turn state with
    | ends result => exact ⟨result, .last hturn⟩
    | again next =>
      rw [hturn] at hstate
      obtain ⟨result, h⟩ :=
        ih _ hstate (fun later hcomes => hlower later (.again hturn hcomes)) rfl
      exact ⟨result, .again hturn h⟩

/-- Each turn of a loop lowers a measure or ends, and leaves a value as it is. -/
structure Progresses (turn : σ → Iteration σ ρ) (measure : σ → Nat) (value : σ → ρ) : Prop where
  lowers : ∀ state, (turn state).Leads (measure · < measure state)
  keeps : ∀ state, (turn state).outcome value = value state

/-- Such a loop ends, with that value. -/
theorem Progresses.ends {measure : σ → Nat} {value : σ → ρ} (h : Progresses turn measure value)
    (state : σ) : Ends turn state (value state) := by
  obtain ⟨result, hends⟩ := exists_ends measure fun next (_ : Comes turn state next) =>
    h.lowers next
  rwa [hends.eq_value h.keeps] at hends

end Iteration

end RouteTable
