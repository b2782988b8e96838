import RouteTable.Pass.Generation
import RouteTable.Proofs.Reporting
import RouteTable.Proofs.Route.Render

/-!
What a pass that generates a table can fail with. Discovery numbers the route files by their places,
so that no alias of a pass repeats another, and the check of the aliases stops no pass.
-/

namespace RouteTable

open Reporting

namespace PassError

def isRepeatedAlias : PassError → Bool
  | .table (.repeatedAlias ..) => true
  | _ => false

end PassError

namespace Pass

variable {α ε : Type}

abbrev SparesAliases (step : Pass α) : Prop :=
  step.FailsOnly (·.isRepeatedAlias = false)

theorem sparesAliases_pure (a : α) : SparesAliases (pure a) :=
  failsOnly_of_ok rfl _

theorem sparesAliases_report (notice : Notice) : SparesAliases (.report notice) :=
  failsOnly_of_ok rfl _

theorem sparesAliases_ofExcept {outcome : Except ε α} {errorOf : ε → PassError}
    (h : ∀ e, (errorOf e).isRepeatedAlias = false) :
    SparesAliases (.ofExcept (outcome.mapError errorOf)) :=
  failsOnly_mapError fun e _ => h e

theorem sparesAliases_ofLogged {step : Reporting Event ε α} {errorOf : ε → PassError}
    (h : ∀ e, step.outcome = .error e → (errorOf e).isRepeatedAlias = false) :
    (ofLogged errorOf step).SparesAliases :=
  failsOnly_mapError h

end Pass

open Pass

namespace Discovery

theorem map_index_number (index : Nat) (found : List (String × Path)) :
    (number index found).map RouteModule.index = List.range' index found.length := by
  induction found generalizing index with
  | nil => rfl
  | cons pair rest ih =>
    obtain ⟨relative, path⟩ := pair
    simp only [number, List.map_cons, ih, List.length_cons, List.range'_succ]

theorem sparesAliases_select (includes ignores : GlobSet) (base : Location)
    (names : List FileName) : (select includes ignores base names).SparesAliases := by
  rw [select]
  split
  · exact (sparesAliases_report _).bind fun _ _ => sparesAliases_pure _
  · split
    · split
      · exact (sparesAliases_report _).bind fun _ _ => sparesAliases_pure _
      · exact sparesAliases_pure _
    · exact sparesAliases_pure _

theorem sparesAliases_selectAll (includes ignores : GlobSet) (base : Location)
    (reports : List (List FileName)) : (selectAll includes ignores base reports).SparesAliases := by
  induction reports with
  | nil => exact sparesAliases_pure _
  | cons names rest ih =>
    apply (sparesAliases_select includes ignores base names).bind
    intro found _
    exact ih.bind fun _ _ => sparesAliases_pure _

end Discovery

theorem sparesAliases_baseLocation (config : Config) (fs : FileSystem) :
    SparesAliases (.ofExcept (config.baseLocation fs)) := by
  intro e h
  simp only [Reporting.ofExcept, Config.baseLocation, Config.basePath, bind, Except.bind] at h
  grind [PassError.isRepeatedAlias]

theorem sparesAliases_findRoutes (config : Config) (fs : FileSystem) :
    (findRoutes config fs).SparesAliases := by
  apply (sparesAliases_baseLocation config fs).bind
  intro base _
  apply (sparesAliases_report _).bind
  intro _ _
  apply (sparesAliases_report _).bind
  intro _ _
  apply (sparesAliases_ofExcept fun _ => rfl).bind
  intro includes _
  apply (sparesAliases_ofExcept fun _ => rfl).bind
  intro ignores _
  apply (Discovery.sparesAliases_selectAll _ _ _ _).bind
  intro found _
  apply (sparesAliases_ofExcept fun _ => rfl).bind
  intro _ _
  apply (sparesAliases_report _).bind
  intro _ _
  exact sparesAliases_pure _

/-- Route files are numbered by their places. -/
theorem map_index_findRoutes {config : Config} {fs : FileSystem} {files : List RouteModule}
    (h : (findRoutes config fs).outcome = .ok files) :
    files.map RouteModule.index = List.range files.length := by
  simp only [findRoutes, outcome_bind_eq_ok_iff] at h
  obtain ⟨base, -, -, -, -, -, includes, -, ignores, -, found, -, -, -, -, -, hfiles⟩ := h
  cases hfiles
  have hindex := Discovery.map_index_number 0 (found.mergeSort fun a b => a.1 ≤ b.1)
  have hlength := congrArg List.length hindex
  rw [List.length_map, List.length_range'] at hlength
  rw [hindex, hlength, List.range_eq_range']

theorem sparesAliases_dependOnAll (files : List RouteModule) :
    (dependOnAll files).SparesAliases := by
  induction files with
  | nil => exact sparesAliases_pure _
  | cons file rest ih => exact (sparesAliases_report _).bind fun _ _ => ih

theorem sparesAliases_bindingsOf (scanner : Scanner) (fs : FileSystem) (file : RouteModule) :
    (bindingsOf scanner fs file).SparesAliases := by
  apply (sparesAliases_ofExcept fun _ => rfl).bind
  intro source _
  apply (sparesAliases_ofLogged fun _ _ => rfl).bind
  intro bindings _
  exact (sparesAliases_report _).bind fun _ _ => sparesAliases_pure _

theorem sparesAliases_bindingsOfAll (scanner : Scanner) (fs : FileSystem)
    (files : List RouteModule) : (bindingsOfAll scanner fs files).SparesAliases := by
  induction files with
  | nil => exact sparesAliases_pure _
  | cons file rest ih =>
    apply (sparesAliases_bindingsOf scanner fs file).bind
    intro bindings _
    exact ih.bind fun _ _ => sparesAliases_pure _

/-- Every file gets its exports. -/
theorem length_of_bindingsOfAll {scanner : Scanner} {fs : FileSystem} {files : List RouteModule}
    {bindings : List Bindings} (h : (bindingsOfAll scanner fs files).outcome = .ok bindings) :
    bindings.length = files.length := by
  induction files generalizing bindings with
  | nil =>
    cases h
    rfl
  | cons file rest ih =>
    simp only [bindingsOfAll, outcome_bind_eq_ok_iff] at h
    obtain ⟨first, -, others, hothers, hbindings⟩ := h
    cases hbindings
    rw [List.length_cons, List.length_cons, ih hothers]

namespace Table

/-- Writing entries fails only where a file has no URL. -/
theorem exists_notAbsolute_of_entries {scheme : PatternScheme} {routes : List PlannedRoute}
    {e : TableError} (h : (entries scheme routes).outcome = .error e) :
    ∃ path, e = .notAbsolute path := by
  induction routes with
  | nil => cases h
  | cons route rest ih =>
    rw [entries, outcome_bind_eq_error_iff] at h
    rcases h with h | ⟨first, -, h⟩
    · rw [entry] at h
      split at h
      · cases h
        exact ⟨_, rfl⟩
      · dsimp only at h
        split at h <;> cases h
    · rw [outcome_bind_eq_error_iff] at h
      rcases h with h | ⟨others, -, h⟩
      · exact ih h
      · cases h

theorem isRepeatedAlias_of_render {scheme : PatternScheme} {routes : List PlannedRoute}
    {e : TableError} (hnodup : (routes.flatMap fun route => route.plan.sync.aliases).Nodup)
    (h : (render scheme routes).outcome = .error e) :
    (PassError.table e).isRepeatedAlias = false := by
  rw [render, (repeated?_owners_eq_none_iff routes).2 hnodup] at h
  dsimp only at h
  rw [outcome_bind_eq_error_iff] at h
  rcases h with h | ⟨entries, -, h⟩
  · obtain ⟨path, rfl⟩ := exists_notAbsolute_of_entries h
    rfl
  · cases h

end Table

/-- The routes planned for files with different indices have no alias in common. -/
theorem nodup_aliases_plannedRoutes (config : Config) {inputs : List (RouteModule × Bindings)}
    (hindex : (inputs.map fun input => input.1.index).Nodup) :
    ((plannedRoutes config inputs).flatMap fun route => route.plan.sync.aliases).Nodup := by
  apply Table.nodup_aliases_of_index
  · rw [plannedRoutes, List.map_map]
    exact hindex
  · intro route hroute
    obtain ⟨input, -, rfl⟩ := List.mem_map.1 hroute
    exact ⟨input.2, config.sync, rfl⟩

/-- What comes after discovery, for files with different indices. -/
theorem sparesAliases_planned (scanner : Scanner) (config : Config) (fs : FileSystem)
    {files : List RouteModule} (hindex : (files.map RouteModule.index).Nodup) :
    SparesAliases (do
      let bindings ← bindingsOfAll scanner fs files
      let routes ← planAll config (files.zip bindings)
      let text ← .ofLogged .table (Table.render config.scheme routes)
      .log (.generated files.length text.utf8ByteSize)
      pure text) := by
  apply (sparesAliases_bindingsOfAll scanner fs files).bind
  intro bindings hbindings
  have hplan : (planAll config (files.zip bindings)).SparesAliases :=
    failsOnly_of_ok (outcome_planAll _ _) _
  apply hplan.bind
  intro routes hroutes
  cases (outcome_planAll _ _).symm.trans hroutes
  have hzip : ((files.zip bindings).map fun input => input.1.index).Nodup := by
    have hfiles := List.map_fst_zip (Nat.le_of_eq (length_of_bindingsOfAll hbindings).symm)
    rw [← hfiles, List.map_map] at hindex
    exact hindex
  apply FailsOnly.bind
  · exact sparesAliases_ofLogged fun e =>
      Table.isRepeatedAlias_of_render (nodup_aliases_plannedRoutes config hzip)
  · intro text _
    exact (sparesAliases_report _).bind fun _ _ => sparesAliases_pure _

/-- No pass fails because an alias is repeated. -/
theorem sparesAliases_generateTable (scanner : Scanner) (available : Nat) (config : Config)
    (fs : FileSystem) : (generateTable scanner available config fs).SparesAliases := by
  apply (sparesAliases_findRoutes config fs).bind
  intro files hfiles
  have hindex : (files.map RouteModule.index).Nodup := by
    rw [map_index_findRoutes hfiles]
    exact List.nodup_range
  have hplanned := sparesAliases_planned scanner config fs hindex
  apply (sparesAliases_dependOnAll files).bind
  intro _ _
  dsimp only
  split
  · exact (sparesAliases_report _).bind fun _ _ => hplanned
  · exact hplanned

/-- Aliases never repeat. Routes planned for files with different indices have no alias in common
and none has one twice, so that they pass the check. The check passes exactly if no alias is
repeated, and otherwise names the first that repeats one before it, the route that had that one and
the route that repeats it. No pass fails in it. -/
theorem repeated?_planAll (config : Config) (inputs : List (RouteModule × Bindings))
    (hindex : (inputs.map fun input => input.1.index).Nodup) :
    (∃ routes, (planAll config inputs).outcome = .ok routes ∧
      (routes.flatMap fun route => route.plan.sync.aliases).Nodup ∧
      Table.repeated? [] (Table.owners routes) = none) ∧
    (∀ routes : List PlannedRoute,
      (Table.repeated? [] (Table.owners routes) = none ↔
        (routes.flatMap fun route => route.plan.sync.aliases).Nodup) ∧
      ∀ e, Table.repeated? [] (Table.owners routes) = some e ↔
        ∃ earlier later name first second,
          Table.owners routes = earlier ++ (name, second) :: later ∧
          (earlier.map Prod.fst).Nodup ∧ (name, first) ∈ earlier ∧
          e = .repeatedAlias name first second) ∧
    ∀ scanner available fs name first second,
      (generateTable scanner available config fs).outcome ≠
        .error (.table (.repeatedAlias name first second)) := by
  refine ⟨⟨_, outcome_planAll config inputs, ?_, ?_⟩, fun routes => ⟨?_, fun e => ?_⟩, ?_⟩
  · exact nodup_aliases_plannedRoutes config hindex
  · exact (Table.repeated?_owners_eq_none_iff _).2 (nodup_aliases_plannedRoutes config hindex)
  · exact Table.repeated?_owners_eq_none_iff routes
  · have hnone : (([] : List (String × String)).map Prod.fst).Nodup := List.nodup_nil
    rw [Table.repeated?_eq_some_iff hnone]
    rfl
  · intro scanner available fs name first second herror
    cases sparesAliases_generateTable scanner available config fs _ herror

/-- Two files with the indices 1 and 11, whose aliases differ in where the underscore stands. -/
def similarInputs : List (RouteModule × Bindings) :=
  [(⟨1, "a.ts", .ofString "/r/a.ts"⟩, .ofList ["default", "a-b"]),
    (⟨11, "b.ts", .ofString "/r/b.ts"⟩, .ofList ["a-b"])]

/-- The aliases `__1_1` and `__11_0` are kept apart by the place of the underscore. -/
theorem repeated?_planAll_similar :
    ∃ routes, (planAll sampleConfig similarInputs).outcome = .ok routes ∧
      (routes.flatMap fun route => route.plan.sync.aliases) = ["__1_0", "__1_1", "__11_0"] ∧
      Table.repeated? [] (Table.owners routes) = none := by
  have hindex : (similarInputs.map fun input => input.1.index).Nodup := by decide
  obtain ⟨routes, hplan, -, hnone⟩ := (repeated?_planAll sampleConfig similarInputs hindex).1
  refine ⟨routes, hplan, ?_, hnone⟩
  cases (outcome_planAll sampleConfig similarInputs).symm.trans hplan
  decide +kernel

end RouteTable
