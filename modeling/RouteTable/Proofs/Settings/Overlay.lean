import Mathlib.Data.List.Induction
import RouteTable.Settings.Layer

/-!
Layers over one another. Of each setting, the last layer that sets it decides. A layer with a rule
that is no regular expression still decides over the base directory and the globs, which it sets
before it looks at its rules, and over nothing else.
-/

namespace RouteTable

attribute [ext] Config

/-- The last value that items have under a key, or else a value from before. -/
def lastSet {ι α : Type} (key : ι → Option α) (items : List ι) (start : α) : α :=
  (items.filterMap key).getLast?.getD start

section LastSet

variable {ι α : Type} {key : ι → Option α}

@[simp] theorem lastSet_nil (start : α) : lastSet key [] start = start := rfl

@[simp] theorem lastSet_append_singleton (items : List ι) (item : ι) (start : α) :
    lastSet key (items ++ [item]) start = (key item).getD (lastSet key items start) := by
  cases h : key item <;> simp [lastSet, List.filterMap_append, h]

end LastSet

namespace Layer

def isValid (layer : Layer) : Bool :=
  layer.rules.all fun rules => rules.all fun rule => (Regex.compile rule.1).isOk

def step? (rule : String × String) : Option Substitution :=
  (Regex.compile rule.1).toOption.map (⟨·, rule.2⟩)

/-- The scheme that the rules of a layer make, in their order. -/
def scheme? (layer : Layer) : Option PatternScheme :=
  layer.rules.bind fun rules => (rules.mapM step?).map .rules

/-- The settings that a sequence of layers leaves, each laid over what those before it leave,
whether they succeed or not. -/
def overlay (layers : List Layer) (config : Config) : Config :=
  layers.foldl (fun config layer => (layer.apply config).1) config

/-- The last writer of each setting decides. -/
structure LastWriterWins (layers : List Layer) (start final : Config) : Prop where
  root : final.root = start.root
  base : final.base = lastSet Layer.base layers start.base
  patterns : final.patterns = lastSet Layer.patterns layers start.patterns
  ignored : final.ignored = lastSet Layer.ignored layers start.ignored
  scheme : final.scheme = lastSet scheme? (layers.filter isValid) start.scheme
  sync : final.sync = lastSet Layer.sync (layers.filter isValid) start.sync
  deferred : final.deferred = lastSet Layer.deferred (layers.filter isValid) start.deferred
  hidden : final.hidden = lastSet Layer.hidden (layers.filter isValid) start.hidden
  /-- A bound on the workers cannot be taken back by a later layer. -/
  workers :
    final.workers = lastSet (·.workers.map some) (layers.filter isValid) start.workers

theorem LastWriterWins.unique {layers : List Layer} {start final final' : Config}
    (h : LastWriterWins layers start final) (h' : LastWriterWins layers start final') :
    final = final' := by
  apply Config.ext
  · exact h.root.trans h'.root.symm
  · exact h.base.trans h'.base.symm
  · exact h.patterns.trans h'.patterns.symm
  · exact h.ignored.trans h'.ignored.symm
  · exact h.scheme.trans h'.scheme.symm
  · exact h.sync.trans h'.sync.symm
  · exact h.deferred.trans h'.deferred.symm
  · exact h.hidden.trans h'.hidden.symm
  · exact h.workers.trans h'.workers.symm

theorem compileRules_cons (rule : String × String) (rules : List (String × String)) :
    compileRules (rule :: rules) =
      match Regex.compile rule.1 with
      | .error fault => .error (.invalidPattern rule.1 fault)
      | .ok regex => (compileRules rules).map (⟨regex, rule.2⟩ :: ·) := by
  obtain ⟨pattern, replacement⟩ := rule
  have hcons : compileRules ((pattern, replacement) :: rules) =
      ((Substitution.compile pattern replacement).mapError (.invalidPattern pattern ·)).bind
        fun step => (compileRules rules).bind fun steps => .ok (step :: steps) := List.mapM_cons
  rw [hcons, Substitution.compile]
  cases Regex.compile pattern with
  | error fault => rfl
  | ok regex => cases compileRules rules <;> rfl

/-- The rules compile where the pattern of each does. -/
theorem isOk_compileRules (rules : List (String × String)) :
    (compileRules rules).isOk = rules.all fun rule => (Regex.compile rule.1).isOk := by
  induction rules with
  | nil => rfl
  | cons rule rules ih =>
    rw [compileRules_cons, List.all_cons, ← ih]
    cases Regex.compile rule.1 with
    | error fault => rfl
    | ok regex => cases compileRules rules <;> rfl

theorem toOption_compileRules (rules : List (String × String)) :
    (compileRules rules).toOption = rules.mapM step? := by
  induction rules with
  | nil => rfl
  | cons rule rules ih =>
    rw [compileRules_cons, List.mapM_cons, ← ih, step?]
    cases Regex.compile rule.1 with
    | error fault => rfl
    | ok regex => cases compileRules rules <;> rfl

/-- A valid layer sets all that it has. -/
theorem apply_of_isValid {layer : Layer} (hvalid : layer.isValid = true) (config : Config) :
    ∃ rules : Option (List Substitution), rules.map .rules = layer.scheme? ∧
      layer.apply config = (layer.applyRest rules (layer.applyFirst config), none) := by
  cases hrules : layer.rules with
  | none => exact ⟨none, by simp [scheme?, hrules], by simp [apply, hrules]; rfl⟩
  | some rules =>
    have hok : (compileRules rules).isOk = true := by
      rw [isOk_compileRules]
      simpa [isValid, hrules] using hvalid
    cases hcompiled : compileRules rules with
    | error fault => rw [hcompiled] at hok; cases hok
    | ok steps =>
      have hsteps : rules.mapM step? = some steps := by
        rw [← toOption_compileRules, hcompiled]
        rfl
      exact ⟨some steps, by simp [scheme?, hrules, hsteps],
        by simp [apply, hrules, hcompiled]⟩

/-- A layer that is not valid sets nothing behind its rules. -/
theorem apply_of_not_isValid {layer : Layer} (hinvalid : layer.isValid = false)
    (config : Config) : ∃ fault, layer.apply config = (layer.applyFirst config, some fault) := by
  cases hrules : layer.rules with
  | none => simp [isValid, hrules] at hinvalid
  | some rules =>
    have hfail : (compileRules rules).isOk = false := by
      rw [isOk_compileRules]
      simpa [isValid, hrules] using hinvalid
    cases hcompiled : compileRules rules with
    | ok steps => rw [hcompiled] at hfail; cases hfail
    | error fault => exact ⟨fault, by simp [apply, hrules, hcompiled]⟩

/-- A layer fails where one of its rules is no regular expression, over whatever it is laid. -/
theorem apply_snd_eq_none_iff (layer : Layer) (config : Config) :
    (layer.apply config).2 = none ↔ layer.isValid = true := by
  cases hvalid : layer.isValid with
  | true =>
    obtain ⟨rules, -, happly⟩ := apply_of_isValid hvalid config
    simp [happly]
  | false =>
    obtain ⟨fault, happly⟩ := apply_of_not_isValid hvalid config
    simp [happly]

/-- One more layer leaves the last writer of each setting in charge. -/
theorem LastWriterWins.append_singleton {layers : List Layer} {start final : Config}
    (h : LastWriterWins layers start final) (layer : Layer) :
    LastWriterWins (layers ++ [layer]) start (layer.apply final).1 := by
  cases hvalid : layer.isValid with
  | true =>
    obtain ⟨rules, hscheme, happly⟩ := apply_of_isValid hvalid final
    rw [happly]
    constructor
    case workers =>
      cases hworkers : layer.workers <;> simp [applyRest, applyFirst, h.workers, hvalid, hworkers]
    all_goals simp [applyRest, applyFirst, hvalid, hscheme, h.root, h.base, h.patterns, h.ignored,
      h.scheme, h.sync, h.deferred, h.hidden]
  | false =>
    obtain ⟨fault, happly⟩ := apply_of_not_isValid hvalid final
    rw [happly]
    constructor
    all_goals simp [applyFirst, hvalid, h.root, h.base, h.patterns, h.ignored, h.scheme, h.sync,
      h.deferred, h.hidden, h.workers]

end Layer

end RouteTable
