/-!
Computations that report while they work and may fail. What was reported before a failure stays
reported.
-/

namespace RouteTable

/-- The reports of a computation, in order, and its outcome. -/
structure Reporting (ρ ε α : Type) where
  reports : List ρ
  outcome : Except ε α

namespace Reporting

variable {ρ σ ε δ α β : Type}

def report (r : ρ) : Reporting ρ ε Unit := ⟨[r], .ok ()⟩

def fail (e : ε) : Reporting ρ ε α := ⟨[], .error e⟩

/-- A computation that reports nothing. -/
def ofExcept (outcome : Except ε α) : Reporting ρ ε α := ⟨[], outcome⟩

instance : Monad (Reporting ρ ε) where
  pure a := ⟨[], .ok a⟩
  bind first next :=
    match first with
    | ⟨reports, .error e⟩ => ⟨reports, .error e⟩
    | ⟨reports, .ok a⟩ => ⟨reports ++ (next a).reports, (next a).outcome⟩

/-- The same computation with other reports and other errors. -/
def relabel (reportOf : ρ → σ) (errorOf : ε → δ) (computation : Reporting ρ ε α) :
    Reporting σ δ α :=
  ⟨computation.reports.map reportOf, computation.outcome.mapError errorOf⟩

theorem pure_eq (a : α) : (pure a : Reporting ρ ε α) = ⟨[], .ok a⟩ := rfl

theorem bind_ok (reports : List ρ) (a : α) (next : α → Reporting ρ ε β) :
    (⟨reports, .ok a⟩ >>= next : Reporting ρ ε β) =
      ⟨reports ++ (next a).reports, (next a).outcome⟩ := rfl

theorem bind_error (reports : List ρ) (e : ε) (next : α → Reporting ρ ε β) :
    (⟨reports, .error e⟩ >>= next : Reporting ρ ε β) = ⟨reports, .error e⟩ := rfl

end Reporting

end RouteTable
