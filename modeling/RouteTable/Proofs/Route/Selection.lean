import Mathlib.Data.List.Sort
import RouteTable.Pass.Generation

/-!
Which names a plan keeps: the wanted names that the module exports, in the order in which they are
first wanted, each of them once. The order in which the module exports them makes no difference.
-/

namespace RouteTable

namespace Bindings

variable {bindings bindings' : Bindings} {name : String} {wanted names names' : List String}

theorem mem_selectFrom {kept : List String} :
    name ∈ bindings.selectFrom kept wanted ↔
      name ∈ wanted ∧ bindings.contains name = true ∧ name ∉ kept := by
  induction wanted generalizing kept with
  | nil => simp [selectFrom]
  | cons first rest ih =>
    rw [selectFrom]
    split
    · rename_i hkeep
      simp only [Bool.and_eq_true, Bool.not_eq_true', List.contains_eq_mem,
        decide_eq_false_iff_not] at hkeep
      rw [List.mem_cons, ih, List.mem_cons, List.mem_cons, not_or]
      by_cases hfirst : name = first
      · subst hfirst
        simp [hkeep]
      · simp [hfirst]
    · rename_i hdrop
      rw [ih, List.mem_cons]
      by_cases hfirst : name = first
      · subst hfirst
        simp only [Bool.and_eq_true, Bool.not_eq_true', List.contains_eq_mem,
          decide_eq_false_iff_not] at hdrop
        tauto
      · simp [hfirst]

/-- What is selected is what is wanted and exported. -/
theorem mem_select : name ∈ bindings.select wanted ↔
    name ∈ wanted ∧ bindings.contains name = true := by
  rw [select, mem_selectFrom]
  simp

/-- Whether names are the wanted ones that are in a set, each once, in the order of their first
places among those wanted. -/
structure IsSelection (bindings : Bindings) (wanted names : List String) : Prop where
  mem_iff : ∀ name, name ∈ names ↔ name ∈ wanted ∧ name ∈ bindings.names
  nodup : names.Nodup
  ordered : names.Pairwise fun a b => wanted.idxOf a < wanted.idxOf b

/-- Sets with the same members leave one selection. -/
theorem IsSelection.unique (h : bindings.IsSelection wanted names)
    (h' : bindings'.IsSelection wanted names')
    (hsame : ∀ name, name ∈ bindings'.names ↔ name ∈ bindings.names) : names' = names := by
  have : Std.Antisymm fun a b : String => wanted.idxOf a < wanted.idxOf b :=
    ⟨fun _ _ hab hba => absurd hba (Nat.lt_asymm hab)⟩
  have : Std.Irrefl fun a b : String => wanted.idxOf a < wanted.idxOf b :=
    ⟨fun _ => Nat.lt_irrefl _⟩
  apply h'.ordered.eq_of_mem_iff h.ordered
  intro name
  rw [h'.mem_iff, h.mem_iff, hsame]

theorem pairwise_selectFrom (bindings : Bindings) (kept wanted : List String) :
    (bindings.selectFrom kept wanted).Pairwise fun a b => wanted.idxOf a < wanted.idxOf b := by
  induction wanted generalizing kept with
  | nil => exact .nil
  | cons first rest ih =>
    -- The first name is not selected again, so all others are one place further on.
    have hlater {kept : List String} (hfirst : first ∉ bindings.selectFrom kept rest) :
        (bindings.selectFrom kept rest).Pairwise fun a b =>
          (first :: rest).idxOf a < (first :: rest).idxOf b := by
      refine (ih kept).imp_of_mem fun {a b} ha hb hlt => ?_
      rw [List.idxOf_cons_ne rest (ne_of_mem_of_not_mem ha hfirst).symm,
        List.idxOf_cons_ne rest (ne_of_mem_of_not_mem hb hfirst).symm]
      exact Nat.succ_lt_succ hlt
    rw [selectFrom]
    split
    · have hfirst : first ∉ bindings.selectFrom (first :: kept) rest := fun hmem =>
        (mem_selectFrom.1 hmem).2.2 List.mem_cons_self
      refine List.pairwise_cons.2 ⟨fun name hname => ?_, hlater hfirst⟩
      rw [List.idxOf_cons_self, List.idxOf_cons_ne rest (ne_of_mem_of_not_mem hname hfirst).symm]
      exact Nat.succ_pos _
    · rename_i hdrop
      apply hlater
      intro hmem
      obtain ⟨-, hexported, hkept⟩ := mem_selectFrom.1 hmem
      simp [hexported, hkept] at hdrop

theorem isSelection_select (bindings : Bindings) (wanted : List String) :
    bindings.IsSelection wanted (bindings.select wanted) where
  mem_iff name := by
    rw [mem_select, contains, List.contains_iff_mem]
  nodup := by
    refine (pairwise_selectFrom bindings [] wanted).imp ?_
    rintro a b hlt rfl
    exact Nat.lt_irrefl _ hlt
  ordered := pairwise_selectFrom bindings [] wanted

theorem select_eq_of_mem_iff (hsame : ∀ name, name ∈ bindings'.names ↔ name ∈ bindings.names)
    (wanted : List String) : bindings'.select wanted = bindings.select wanted :=
  (isSelection_select bindings wanted).unique (isSelection_select bindings' wanted) hsame

end Bindings

namespace RoutePlan

/-- Kept names are numbered from a position on, without gaps. -/
theorem namedFrom_eq_mapIdx (index position : Nat) (names : List String) :
    namedFrom index position names =
      names.mapIdx fun k name => (name, exportAlias index (position + k)) := by
  induction names generalizing position with
  | nil => rfl
  | cons name rest ih =>
    rw [namedFrom, ih, List.mapIdx_cons]
    simp only [Nat.add_zero, Nat.add_assoc, Nat.add_comm 1]

/-- What planning reports depends on the members of a set alone. -/
theorem events_eq_of_mem_iff {bindings bindings' : Bindings}
    (hsame : ∀ name, name ∈ bindings'.names ↔ name ∈ bindings.names) (route : String)
    (sync : SyncChoice) (deferred : List String) :
    events route bindings' sync deferred = events route bindings sync deferred := by
  have hcontains : bindings'.contains = bindings.contains := by
    funext name
    rw [Bindings.contains, Bindings.contains, List.contains_eq_mem, List.contains_eq_mem]
    exact decide_eq_decide.2 (hsame name)
  simp only [events, droppedFrom, hcontains]

end RoutePlan

/-- A plan keeps the wanted names that the file exports, in the order in which they are first
wanted, each of them once. Those that come with the table by name have the aliases of the positions
from zero on; the whole module has one alias. A set with the same members gives the same plan,
whatever their order is in it. -/
theorem planRoute_isSelection (config : Config) (file : RouteModule) (bindings : Bindings) :
    ∃ plan, (planRoute config file bindings).outcome = .ok ⟨file, plan⟩ ∧
      bindings.IsSelection config.deferred plan.deferred ∧
      (config.sync = .all → plan.sync = .whole (wholeAlias file.index)) ∧
      (∀ wanted, config.sync = .names wanted →
        ∃ names, bindings.IsSelection wanted names ∧
          plan.sync = .named (names.mapIdx fun k name => (name, exportAlias file.index k))) ∧
      ∀ bindings' : Bindings, (∀ name, name ∈ bindings'.names ↔ name ∈ bindings.names) →
        planRoute config file bindings' = planRoute config file bindings := by
  refine ⟨_, rfl, Bindings.isSelection_select _ _, ?_, ?_, ?_⟩
  · intro hsync
    rw [hsync]
    rfl
  · intro wanted hsync
    refine ⟨_, Bindings.isSelection_select bindings wanted, ?_⟩
    rw [hsync, RoutePlan.make, RoutePlan.syncPart, RoutePlan.namedFrom_eq_mapIdx]
    simp only [Nat.zero_add]
  · intro bindings' hsame
    have hselect := Bindings.select_eq_of_mem_iff hsame
    have hsync : RoutePlan.syncPart file.index bindings' config.sync =
        RoutePlan.syncPart file.index bindings config.sync := by
      cases config.sync with
      | all => rfl
      | names wanted => rw [RoutePlan.syncPart, RoutePlan.syncPart, hselect]
    rw [planRoute, planRoute, RoutePlan.events_eq_of_mem_iff hsame, RoutePlan.make, RoutePlan.make,
      hsync, hselect]

section Repeating

/-- Settings that want names twice and names that a file may lack. -/
def repeatingConfig : Config :=
  { Config.standard with
    sync := .names ["meta", "loader", "meta", "none", "default", "loader"]
    deferred := ["none", "loader", "loader"] }

def similarFile : RouteModule :=
  ⟨11, "a.ts", .ofString "/r/a.ts"⟩

/-- Names are kept once, in the order in which they are wanted and not in that of the file. -/
theorem planRoute_isSelection_repeating :
    (∀ name, name ∈ (Bindings.ofList ["default", "loader", "meta"]).names ↔
      name ∈ (Bindings.ofList ["loader", "meta", "default"]).names) ∧
    ∃ plan,
      (planRoute repeatingConfig similarFile (.ofList ["loader", "meta", "default"])).outcome =
        .ok ⟨similarFile, plan⟩ ∧
      (planRoute repeatingConfig similarFile (.ofList ["default", "loader", "meta"])).outcome =
        .ok ⟨similarFile, plan⟩ ∧
      plan.sync = .named [("meta", "__11_0"), ("loader", "__11_1"), ("default", "__11_2")] ∧
      plan.deferred = ["loader"] := by
  have hsame : ∀ name, name ∈ (Bindings.ofList ["default", "loader", "meta"]).names ↔
      name ∈ (Bindings.ofList ["loader", "meta", "default"]).names := by
    intro name
    simp only [Bindings.mem_ofList, List.mem_cons, List.not_mem_nil, or_false]
    tauto
  obtain ⟨plan, hplan, -, -, -, horder⟩ :=
    planRoute_isSelection repeatingConfig similarFile (.ofList ["loader", "meta", "default"])
  refine ⟨hsame, plan, hplan, horder _ hsame ▸ hplan, ?_, ?_⟩
  · cases hplan
    decide
  · cases hplan
    decide

end Repeating

end RouteTable
