import RouteTable.Reporting

/-!
Laws of computations that report: going on with a computation puts its reports behind those before,
and a failure keeps those before it.
-/

namespace RouteTable.Reporting

variable {ρ ε α β γ : Type}

theorem id_map (computation : Reporting ρ ε α) : id <$> computation = computation := by
  obtain ⟨reports, outcome⟩ := computation
  cases outcome with
  | error e => rfl
  | ok a =>
    have h : reports ++ [] = reports := List.append_nil reports
    exact congrArg (fun more => (⟨more, .ok a⟩ : Reporting ρ ε α)) h

theorem pure_bind (a : α) (next : α → Reporting ρ ε β) :
    (pure a : Reporting ρ ε α) >>= next = next a := by
  rw [pure_eq, bind_ok, List.nil_append]

theorem bind_assoc (first : Reporting ρ ε α) (next : α → Reporting ρ ε β)
    (last : β → Reporting ρ ε γ) :
    first >>= next >>= last = first >>= fun a => next a >>= last := by
  obtain ⟨reports, outcome⟩ := first
  cases outcome with
  | error e => rfl
  | ok a =>
    rw [bind_ok, bind_ok]
    cases hnext : next a with
    | mk more outcome =>
      cases outcome with
      | error e => rfl
      | ok b => simp only [bind_ok, List.append_assoc]

instance : LawfulMonad (Reporting ρ ε) :=
  LawfulMonad.mk' _ id_map pure_bind bind_assoc

/-- Going on with a computation that succeeds has the outcome of what is gone on with. -/
theorem outcome_bind_of_ok {first : Reporting ρ ε α} {a : α} (h : first.outcome = .ok a)
    (next : α → Reporting ρ ε β) : (first >>= next).outcome = (next a).outcome := by
  obtain ⟨reports, outcome⟩ := first
  cases h
  rfl

/-- Going on with a computation succeeds where both succeed. -/
theorem outcome_bind_eq_ok_iff {first : Reporting ρ ε α} {next : α → Reporting ρ ε β} {b : β} :
    (first >>= next).outcome = .ok b ↔
      ∃ a, first.outcome = .ok a ∧ (next a).outcome = .ok b := by
  obtain ⟨reports, outcome⟩ := first
  cases outcome with
  | error e => simp [bind_error]
  | ok a => simp [bind_ok]

/-- What is reported on the way is reported by the computation or by what it is gone on with. -/
theorem mem_reports_bind {first : Reporting ρ ε α} {next : α → Reporting ρ ε β} {r : ρ} :
    r ∈ (first >>= next).reports ↔
      r ∈ first.reports ∨ ∃ a, first.outcome = .ok a ∧ r ∈ (next a).reports := by
  obtain ⟨reports, outcome⟩ := first
  cases outcome with
  | error e => simp [bind_error]
  | ok a => simp [bind_ok]

theorem reports_bind_of_ok {first : Reporting ρ ε α} {a : α} (h : first.outcome = .ok a)
    (next : α → Reporting ρ ε β) :
    (first >>= next).reports = first.reports ++ (next a).reports := by
  obtain ⟨reports, outcome⟩ := first
  cases h
  rfl

/-- Going on with a computation fails where it fails, or else where what it is gone on with does. -/
theorem outcome_bind_eq_error_iff {first : Reporting ρ ε α} {next : α → Reporting ρ ε β} {e : ε} :
    (first >>= next).outcome = .error e ↔
      first.outcome = .error e ∨ ∃ a, first.outcome = .ok a ∧ (next a).outcome = .error e := by
  obtain ⟨reports, outcome⟩ := first
  cases outcome with
  | error e' => simp [bind_error]
  | ok a => simp [bind_ok]

/-- A failure ends everything that is gone on with. -/
theorem outcome_bind_of_error {first : Reporting ρ ε α} {e : ε} (h : first.outcome = .error e)
    (next : α → Reporting ρ ε β) : (first >>= next).outcome = .error e :=
  outcome_bind_eq_error_iff.2 (.inl h)

theorem reports_bind_of_error {first : Reporting ρ ε α} {e : ε} (h : first.outcome = .error e)
    (next : α → Reporting ρ ε β) : (first >>= next).reports = first.reports := by
  obtain ⟨reports, outcome⟩ := first
  cases h
  rfl

/-- Whether a computation, where it fails, fails with an error of some kind. -/
def FailsOnly (computation : Reporting ρ ε α) (kind : ε → Prop) : Prop :=
  ∀ e, computation.outcome = .error e → kind e

theorem failsOnly_of_ok {computation : Reporting ρ ε α} {a : α} (h : computation.outcome = .ok a)
    (kind : ε → Prop) : computation.FailsOnly kind := by
  intro e herror
  cases h.symm.trans herror

theorem FailsOnly.bind {first : Reporting ρ ε α} {next : α → Reporting ρ ε β} {kind : ε → Prop}
    (hfirst : first.FailsOnly kind)
    (hnext : ∀ a, first.outcome = .ok a → (next a).FailsOnly kind) :
    (first >>= next).FailsOnly kind := by
  intro e herror
  rcases outcome_bind_eq_error_iff.1 herror with herror | ⟨a, hok, herror⟩
  · exact hfirst e herror
  · exact hnext a hok e herror

theorem failsOnly_mapError {δ : Type} {reports : List ρ} {outcome : Except δ α} {errorOf : δ → ε}
    {kind : ε → Prop} (h : ∀ e, outcome = .error e → kind (errorOf e)) :
    FailsOnly (⟨reports, outcome.mapError errorOf⟩ : Reporting ρ ε α) kind := by
  intro e herror
  cases outcome with
  | error cause =>
    cases herror
    exact h cause rfl
  | ok a => cases herror

end RouteTable.Reporting
