import RouteTable.Proofs.Pass.Discovery
import RouteTable.Proofs.Pass.Workers

/-!
What a pass depends on, however it ends: nothing before its base directory is resolved, the base
directory alone while files are being discovered, and all of the files from then on.
-/

namespace RouteTable

open Reporting

namespace Pass

variable {α β : Type}

def DependsOnNothing (step : Pass α) : Prop :=
  ∀ notice ∈ step.reports, ∃ event, notice = .event event

theorem DependsOnNothing.bind {step : Pass α} {next : α → Pass β} (h : step.DependsOnNothing)
    (hnext : ∀ a, step.outcome = .ok a → (next a).DependsOnNothing) :
    (step >>= next).DependsOnNothing := by
  intro notice hmem
  rcases mem_reports_bind.1 hmem with hmem | ⟨a, hok, hmem⟩
  · exact h notice hmem
  · exact hnext a hok notice hmem

theorem dependsOnNothing_pure (a : α) : DependsOnNothing (pure a) :=
  List.forall_mem_nil _

theorem dependsOnNothing_ofExcept (outcome : Except PassError α) :
    DependsOnNothing (.ofExcept outcome) :=
  List.forall_mem_nil _

theorem dependsOnNothing_log (event : Event) : (log event).DependsOnNothing :=
  List.forall_mem_singleton.2 ⟨event, rfl⟩

theorem dependsOnNothing_ofLogged {ε : Type} (errorOf : ε → PassError)
    (step : Reporting Event ε α) : (ofLogged errorOf step).DependsOnNothing := by
  intro notice hmem
  obtain ⟨event, -, rfl⟩ := List.mem_map.1 hmem
  exact ⟨event, rfl⟩

theorem DependsOnNothing.dependencies {step : Pass α} (h : step.DependsOnNothing) :
    step.directories = [] ∧ step.files = [] := by
  rw [directories, files, List.filterMap_eq_nil_iff, List.filterMap_eq_nil_iff]
  constructor
  · intro notice hmem
    obtain ⟨event, rfl⟩ := h notice hmem
    rfl
  · intro notice hmem
    obtain ⟨event, rfl⟩ := h notice hmem
    rfl

theorem directories_bind_of_ok {step : Pass α} {a : α} (h : step.outcome = .ok a)
    (next : α → Pass β) :
    directories (step >>= next) = step.directories ++ (next a).directories := by
  rw [directories, reports_bind_of_ok h, List.filterMap_append, directories, directories]

theorem files_bind_of_ok {step : Pass α} {a : α} (h : step.outcome = .ok a)
    (next : α → Pass β) : files (step >>= next) = step.files ++ (next a).files := by
  rw [files, reports_bind_of_ok h, List.filterMap_append, files, files]

theorem dependencies_bind_of_error {step : Pass α} {e : PassError} (h : step.outcome = .error e)
    (next : α → Pass β) :
    directories (step >>= next) = step.directories ∧ files (step >>= next) = step.files := by
  rw [directories, files, reports_bind_of_error h, directories, files]
  exact ⟨rfl, rfl⟩

end Pass

open Pass Discovery

namespace Discovery

variable {includes ignores : GlobSet} {base : Location}

theorem dependsOnNothing_select (names : List FileName) :
    (select includes ignores base names).DependsOnNothing := by
  rw [select]
  split
  · exact (dependsOnNothing_log _).bind fun _ _ => dependsOnNothing_pure _
  · split
    · split
      · exact (dependsOnNothing_log _).bind fun _ _ => dependsOnNothing_pure _
      · exact dependsOnNothing_pure _
    · exact dependsOnNothing_pure _

theorem dependsOnNothing_selectAll (reports : List (List FileName)) :
    (selectAll includes ignores base reports).DependsOnNothing := by
  induction reports with
  | nil => exact dependsOnNothing_pure _
  | cons names rest ih =>
    apply (dependsOnNothing_select names).bind
    intro found _
    exact ih.bind fun _ _ => dependsOnNothing_pure _

end Discovery

variable {config : Config} {fs : FileSystem} {base : Location}

/-- Discovery depends on the base directory, and on no file yet. -/
theorem dependencies_findRoutes (hbase : config.baseLocation fs = .ok base) :
    (findRoutes config fs).directories = [Location.path base] ∧
      (findRoutes config fs).files = [] := by
  have hstart : (.ofExcept (config.baseLocation fs) : Pass Location).outcome = .ok base := hbase
  have hlog : (Pass.log (.discovering (Location.path base).shown)).outcome = .ok () := rfl
  have hdepend : (Pass.dependOnDirectory (Location.path base)).outcome = .ok () := rfl
  have hrest : DependsOnNothing (do
      let includes ← .ofExcept ((GlobSet.compile config.patterns).mapError .glob)
      let ignores ← .ofExcept ((GlobSet.compile config.ignored).mapError .glob)
      let walk := fs.walk config.hidden base
      let found ← selectAll includes ignores base walk.reports
      .ofExcept (walk.outcome.mapError .walk)
      .log (.discovered found.length)
      pure (number 0 (found.mergeSort fun a b => a.1 ≤ b.1))) := by
    apply (dependsOnNothing_ofExcept _).bind
    intro includes _
    apply (dependsOnNothing_ofExcept _).bind
    intro ignores _
    apply (dependsOnNothing_selectAll _).bind
    intro found _
    apply (dependsOnNothing_ofExcept _).bind
    intro _ _
    exact (dependsOnNothing_log _).bind fun _ _ => dependsOnNothing_pure _
  rw [findRoutes, directories_bind_of_ok hstart, directories_bind_of_ok hlog,
    directories_bind_of_ok hdepend, hrest.dependencies.1, files_bind_of_ok hstart,
    files_bind_of_ok hlog, files_bind_of_ok hdepend, hrest.dependencies.2]
  exact ⟨rfl, rfl⟩

/-- Whether discovery in a base directory fails with an error: one of its globs cannot be compiled,
or else the walk fails. -/
inductive FailsToDiscover (config : Config) (fs : FileSystem) (base : Location) : PassError → Prop
  | patterns {e : GlobError} (h : GlobSet.compile config.patterns = .error e) :
      FailsToDiscover config fs base (.glob e)
  | ignored {includes : GlobSet} {e : GlobError}
      (hincludes : GlobSet.compile config.patterns = .ok includes)
      (h : GlobSet.compile config.ignored = .error e) :
      FailsToDiscover config fs base (.glob e)
  | walk {includes ignores : GlobSet} {fault : WalkFault}
      (hincludes : GlobSet.compile config.patterns = .ok includes)
      (hignores : GlobSet.compile config.ignored = .ok ignores)
      (h : (fs.walk config.hidden base).outcome = .error fault) :
      FailsToDiscover config fs base (.walk fault)

theorem FailsToDiscover.outcome_findRoutes {e : PassError} (h : FailsToDiscover config fs base e)
    (hbase : config.baseLocation fs = .ok base) : (findRoutes config fs).outcome = .error e := by
  have hstart : (.ofExcept (config.baseLocation fs) : Pass Location).outcome = .ok base := hbase
  cases h with
  | patterns h =>
    rw [findRoutes, outcome_bind_of_ok hstart, h]
    rfl
  | ignored hincludes h =>
    rw [findRoutes, outcome_bind_of_ok hstart, hincludes, h]
    rfl
  | walk hincludes hignores h =>
    rw [RouteTable.outcome_findRoutes hbase hincludes hignores, h]
    rfl

/-- Discovery finds its files where it does not fail. -/
theorem findRoutes_ok_of_not_failsToDiscover (hbase : config.baseLocation fs = .ok base)
    (h : ∀ e, ¬ FailsToDiscover config fs base e) :
    ∃ includes ignores, (fs.walk config.hidden base).outcome = .ok () ∧
      (findRoutes config fs).outcome = .ok (number 0 (sortByKey
        ((fs.walk config.hidden base).reports.filterMap (selection includes ignores base)))) := by
  rcases hincludes : GlobSet.compile config.patterns with glob | includes
  · exact absurd (.patterns hincludes) (h _)
  rcases hignores : GlobSet.compile config.ignored with glob | ignores
  · exact absurd (.ignored hincludes hignores) (h _)
  rcases hwalk : (fs.walk config.hidden base).outcome with fault | _
  · exact absurd (.walk hincludes hignores hwalk) (h _)
  · exact ⟨includes, ignores, rfl, outcome_findRoutes_of_walk_ok hbase hincludes hignores hwalk⟩

section Completing

variable (scanner : Scanner) (available : Nat) {files : List RouteModule}

/-- What is left of a pass once its files are dependencies. -/
def completePass (scanner : Scanner) (config : Config) (fs : FileSystem)
    (files : List RouteModule) : Pass String := do
  let bindings ← bindingsOfAll scanner fs files
  let routes ← planAll config (files.zip bindings)
  let text ← .ofLogged .table (Table.render config.scheme routes)
  .log (.generated files.length text.utf8ByteSize)
  pure text

/-- Reports how many workers there are, where there is more than one. -/
def logWorkers (files : List RouteModule) (workers : Nat) : Pass Unit :=
  if workers != 1 then .log (.analyzing files.length workers) else pure ()

theorem generateTable_eq_completePass (config : Config) (fs : FileSystem) :
    generateTable scanner available config fs = (do
      let files ← findRoutes config fs
      dependOnAll files
      logWorkers files (config.workersFor available files.length)
      completePass scanner config fs files) := by
  have hlogged (files : List RouteModule) (workers : Nat) (rest : Unit → Pass String) :
      (if workers != 1 then .log (.analyzing files.length workers) >>= rest else rest ()) =
        logWorkers files workers >>= rest := by
    rw [logWorkers]
    split
    · rfl
    · rw [Reporting.pure_bind]
  exact congrArg (findRoutes config fs >>= ·) (funext fun files =>
    congrArg (dependOnAll files >>= ·) (funext fun _ => hlogged files _ fun _ =>
      completePass scanner config fs files))

theorem outcome_logWorkers (files : List RouteModule) (workers : Nat) :
    (logWorkers files workers).outcome = .ok () := by
  rw [logWorkers]
  split <;> rfl

theorem dependsOnNothing_logWorkers (files : List RouteModule) (workers : Nat) :
    (logWorkers files workers).DependsOnNothing := by
  rw [logWorkers]
  split
  · exact dependsOnNothing_log _
  · exact dependsOnNothing_pure _

/-- The text of the table for files, or the error, given what their analysis has come to. -/
def tableOf (config : Config) (files : List RouteModule)
    (analyzed : Except PassError (List Bindings)) : Except PassError String := do
  let bindings ← analyzed
  (Table.render config.scheme (plannedRoutes config (files.zip bindings))).outcome.mapError .table

theorem outcome_completePass (config : Config) (fs : FileSystem) (files : List RouteModule) :
    (completePass scanner config fs files).outcome =
      tableOf config files (files.mapM fun file => (bindingsOf scanner fs file).outcome) := by
  rw [← outcome_bindingsOfAll]
  rcases hanalyzed : (bindingsOfAll scanner fs files).outcome with e | bindings
  · rw [completePass, outcome_bind_of_error hanalyzed]
    rfl
  · rw [completePass, outcome_bind_of_ok hanalyzed, outcome_bind_of_ok (outcome_planAll _ _)]
    have htext : (ofLogged .table (Table.render config.scheme
        (plannedRoutes config (files.zip bindings)))).outcome =
          tableOf config files (.ok bindings) := rfl
    rcases htable : tableOf config files (.ok bindings) with e | text
    · rw [outcome_bind_of_error (htext.trans htable)]
    · rw [outcome_bind_of_ok (htext.trans htable)]
      rfl

theorem dependsOnNothing_planAll (inputs : List (RouteModule × Bindings)) :
    (planAll config inputs).DependsOnNothing := by
  induction inputs with
  | nil => exact dependsOnNothing_pure _
  | cons input rest ih =>
    obtain ⟨file, bindings⟩ := input
    have hfirst : (planRoute config file bindings).DependsOnNothing := by
      intro notice hmem
      obtain ⟨event, -, rfl⟩ := List.mem_map.1 hmem
      exact ⟨event, rfl⟩
    exact hfirst.bind fun _ _ => ih.bind fun _ _ => dependsOnNothing_pure _

theorem dependsOnNothing_bindingsOfAll (fs : FileSystem) (files : List RouteModule) :
    (bindingsOfAll scanner fs files).DependsOnNothing := by
  induction files with
  | nil => exact dependsOnNothing_pure _
  | cons file rest ih =>
    have hfirst : (bindingsOf scanner fs file).DependsOnNothing := by
      apply (dependsOnNothing_ofExcept _).bind
      intro source _
      apply (dependsOnNothing_ofLogged _ _).bind
      intro bindings _
      exact (dependsOnNothing_log _).bind fun _ _ => dependsOnNothing_pure _
    exact hfirst.bind fun _ _ => ih.bind fun _ _ => dependsOnNothing_pure _

theorem dependsOnNothing_completePass (config : Config) (fs : FileSystem)
    (files : List RouteModule) : (completePass scanner config fs files).DependsOnNothing := by
  apply (dependsOnNothing_bindingsOfAll scanner fs files).bind
  intro bindings _
  apply (dependsOnNothing_planAll _).bind
  intro routes _
  apply (dependsOnNothing_ofLogged _ _).bind
  intro text _
  exact (dependsOnNothing_log _).bind fun _ _ => dependsOnNothing_pure _

theorem dependOnAll_eq (files : List RouteModule) :
    dependOnAll files = ⟨files.map fun file => .file file.absolute, .ok ()⟩ := by
  induction files with
  | nil => rfl
  | cons file rest ih =>
    rw [dependOnAll, ih]
    rfl

theorem directories_dependOnAll (files : List RouteModule) :
    (dependOnAll files).directories = [] := by
  rw [directories, dependOnAll_eq, List.filterMap_map]
  exact List.filterMap_eq_nil_iff.2 fun _ _ => rfl

theorem files_dependOnAll (files : List RouteModule) :
    (dependOnAll files).files = files.map RouteModule.absolute := by
  rw [Pass.files, dependOnAll_eq, List.filterMap_map]
  exact congrFun (List.filterMap_eq_map (f := RouteModule.absolute)) files

/-- Before its base directory is resolved, a pass has nothing to depend on. -/
theorem generateTable_of_baseLocation_error {e : PassError}
    (h : config.baseLocation fs = .error e) :
    generateTable scanner available config fs = ⟨[], .error e⟩ := by
  have hfound : findRoutes config fs = ⟨[], .error e⟩ := by
    rw [findRoutes, h]
    rfl
  rw [generateTable, hfound]
  rfl

/-- While files are being discovered, a pass depends on its base directory. -/
theorem generateTable_of_failsToDiscover {e : PassError} (hbase : config.baseLocation fs = .ok base)
    (h : FailsToDiscover config fs base e) :
    (generateTable scanner available config fs).directories = [Location.path base] ∧
      (generateTable scanner available config fs).files = [] ∧
      (generateTable scanner available config fs).outcome = .error e := by
  have herror := h.outcome_findRoutes hbase
  obtain ⟨hdirectory, hnone⟩ := dependencies_findRoutes hbase
  rw [generateTable_eq_completePass, (dependencies_bind_of_error herror _).1,
    (dependencies_bind_of_error herror _).2, outcome_bind_of_error herror]
  exact ⟨hdirectory, hnone, rfl⟩

/-- A pass that has found its files depends on all of them, whatever comes after. -/
theorem generateTable_of_findRoutes_ok (hbase : config.baseLocation fs = .ok base)
    (hfiles : (findRoutes config fs).outcome = .ok files) :
    (generateTable scanner available config fs).directories = [Location.path base] ∧
      (generateTable scanner available config fs).files = files.map RouteModule.absolute ∧
      (generateTable scanner available config fs).outcome =
        tableOf config files (files.mapM fun file => (bindingsOf scanner fs file).outcome) := by
  have hdepend : (dependOnAll files).outcome = .ok () := by rw [dependOnAll_eq]
  have hlogged := outcome_logWorkers files (config.workersFor available files.length)
  have hrest := (dependsOnNothing_logWorkers files
    (config.workersFor available files.length)).bind fun _ _ =>
      dependsOnNothing_completePass scanner config fs files
  obtain ⟨hdirectory, hnone⟩ := dependencies_findRoutes hbase
  rw [generateTable_eq_completePass]
  refine ⟨?_, ?_, ?_⟩
  · rw [directories_bind_of_ok hfiles, directories_bind_of_ok hdepend, hdirectory,
      directories_dependOnAll, hrest.dependencies.1]
    rfl
  · rw [files_bind_of_ok hfiles, files_bind_of_ok hdepend, hnone, files_dependOnAll,
      hrest.dependencies.2, List.append_nil]
    rfl
  · rw [outcome_bind_of_ok hfiles, outcome_bind_of_ok hdepend, outcome_bind_of_ok hlogged,
      outcome_completePass]

end Completing

/-- A pass depends on nothing if its base directory cannot be resolved; on that directory alone if
its globs cannot be compiled or its walk fails; and otherwise on that directory and on all files
that are discovered, each once, in their order, even if it then fails with one of them. Any number
of workers under any schedule come to one result, and that decides whether the pass has a text or
an error. -/
theorem dependencies_generateTable (scanner : Scanner) (available : Nat) (config : Config)
    (fs : FileSystem) :
    let pass := generateTable scanner available config fs
    (∀ e, config.baseLocation fs = .error e →
      pass.directories = [] ∧ pass.files = [] ∧ pass.outcome = .error e) ∧
    ∀ base, config.baseLocation fs = .ok base →
      pass.directories = [Location.path base] ∧
      (∀ e, FailsToDiscover config fs base e → pass.files = [] ∧ pass.outcome = .error e) ∧
      ((∀ e, ¬ FailsToDiscover config fs base e) →
        ∃ files analyzed, (findRoutes config fs).outcome = .ok files ∧
          pass.files = files.map RouteModule.absolute ∧
          (fs.WellFormed → (files.map RouteModule.absolute).Nodup ∧
            files.Pairwise fun a b => a.relative < b.relative) ∧
          (∀ workers outcome,
            Analyzed (fun file => (bindingsOf scanner fs file).outcome) files workers outcome ↔
              outcome = analyzed) ∧
          (∀ file ∈ files, ∀ e, (bindingsOf scanner fs file).outcome = .error e →
            ∃ first, analyzed = .error first) ∧
          pass.outcome = tableOf config files analyzed) := by
  intro pass
  refine ⟨fun e hbase => ?_, fun base hbase => ?_⟩
  · have hpass : pass = ⟨[], .error e⟩ :=
      generateTable_of_baseLocation_error scanner available hbase
    rw [hpass]
    exact ⟨rfl, rfl, rfl⟩
  have hfails (e : PassError) (h : FailsToDiscover config fs base e) :=
    generateTable_of_failsToDiscover scanner available hbase h
  by_cases hdiscover : ∃ e, FailsToDiscover config fs base e
  · obtain ⟨e, h⟩ := hdiscover
    exact ⟨(hfails e h).1, fun e h => (hfails e h).2, fun hno => absurd h (hno e)⟩
  · have hno (e : PassError) (h : FailsToDiscover config fs base e) : False := hdiscover ⟨e, h⟩
    obtain ⟨includes, ignores, hwalk, hfiles⟩ := findRoutes_ok_of_not_failsToDiscover hbase hno
    obtain ⟨hdirectories, hregistered, houtcome⟩ :=
      generateTable_of_findRoutes_ok scanner available hbase hfiles
    refine ⟨hdirectories, fun e h => absurd h (hno e), fun _ => ⟨_, _, hfiles, hregistered,
      fun hwf => pairwise_number_selected hwf hbase hwalk includes ignores,
      fun _ _ => analyzed_iff_mapM, ?_, houtcome⟩⟩
    intro file hmem e herror
    exact exists_mapM_error hmem ⟨e, herror⟩

section UnreadableFile

/-- A directory with a file that is no text and one that is. -/
def unreadableFile : FileSystem where
  root := .directory [(.ofString "a.ts", .file [0xFF]), (.ofString "b.ts", .file [])]
  workingDirectory := []

theorem wellFormed_unreadableFile : unreadableFile.WellFormed :=
  FileSystem.wellFormed_of_flat (by decide) (by decide) (by decide)

theorem walk_unreadableFile :
    unreadableFile.walk false [] = ⟨[[.ofString "a.ts"], [.ofString "b.ts"]], .ok ()⟩ := by
  have hentries : unreadableFile.sorted.entriesAt [] =
      [(.ofString "a.ts", .file [0xFF]), (.ofString "b.ts", .file [])] := by
    have hordered : [(FileName.ofString "a.ts", FileNode.file [0xFF]),
        (.ofString "b.ts", .file [])].Pairwise fun a b => a.1 ≤ b.1 :=
      List.pairwise_pair.2 (by decide)
    exact sortByKey_of_pairwise hordered
  have hshown {name : FileName} (h : name.isHidden = false) :
      (unreadableFile.walkSetting false []).shows name := by
    simp [Walk.Setting.shows, h]
  have ha : (FileName.ofString "a.ts").isHidden = false :=
    (FileName.isHidden_of_ascii (by decide)).trans (by decide)
  have hb : (FileName.ofString "b.ts").isHidden = false :=
    (FileName.isHidden_of_ascii (by decide)).trans (by decide)
  rw [FileSystem.walk_eq, hentries, Walk.entries_cons,
    Walk.entries_of_file rfl (hshown ha), Walk.entries_cons,
    Walk.entries_of_file rfl (hshown hb), Walk.entries_nil]
  rfl

theorem findRoutes_unreadableFile : (findRoutes rootConfig unreadableFile).outcome =
    .ok [⟨0, "a.ts", .ofString "/a.ts"⟩, ⟨1, "b.ts", .ofString "/b.ts"⟩] := by
  obtain ⟨includes, ignores, hincludes, hignores, hmatch⟩ := compile_standard
  have ha : selection includes ignores [] [.ofString "a.ts"] = some ("a.ts", .ofString "/a.ts") :=
    selection_eq_some_iff.2
      ⟨(relative?_of_ascii (by decide)).trans (by decide), by decide, hmatch "a.ts" (by decide)⟩
  have hb : selection includes ignores [] [.ofString "b.ts"] = some ("b.ts", .ofString "/b.ts") :=
    selection_eq_some_iff.2
      ⟨(relative?_of_ascii (by decide)).trans (by decide), by decide, hmatch "b.ts" (by decide)⟩
  have hwalk : unreadableFile.walk rootConfig.hidden [] = _ := walk_unreadableFile
  rw [outcome_findRoutes (baseLocation_rootConfig unreadableFile) hincludes hignores, hwalk,
    List.filterMap_cons_some ha, List.filterMap_cons_some hb, List.filterMap_nil,
    sortByKey_of_pairwise (by simp)]
  rfl

theorem readText_unreadableFile :
    unreadableFile.readText (.ofString "/a.ts") = .error .notText := by
  have hnames : (Path.ofString "/a.ts").names = [.ofString "a.ts"] := by decide
  have hending : (Path.ofString "/a.ts").ending = .name := by decide
  have hfind : unreadableFile.find (.ofString "/a.ts") = .ok (.file [.ofString "a.ts"] [0xFF]) := by
    refine FileSystem.find_of_leads (by decide) (Nat.zero_le _) ?_
    rw [hnames, hending]
    exact .file (by decide) (by decide) rfl
  exact FileSystem.readText_eq_notText hfind (Text.Utf8.decode?_of_leading?_eq_none (by decide) [])

/-- Both files are dependencies, although the pass fails with the first of them. -/
theorem dependencies_generateTable_unreadable :
    rootConfig.baseLocation unreadableFile = .ok [] ∧
      (∀ e, ¬ FailsToDiscover rootConfig unreadableFile [] e) ∧ unreadableFile.WellFormed ∧
      (generateTable .standard 2 rootConfig unreadableFile).directories = [.ofString "/"] ∧
      (generateTable .standard 2 rootConfig unreadableFile).files =
        [.ofString "/a.ts", .ofString "/b.ts"] ∧
      (generateTable .standard 2 rootConfig unreadableFile).files.Nodup ∧
      (generateTable .standard 2 rootConfig unreadableFile).outcome =
        .error (.routeFile (.ofString "/a.ts") .notText) := by
  have hbase := baseLocation_rootConfig unreadableFile
  have hfound := findRoutes_unreadableFile
  have hno (e : PassError) : ¬ FailsToDiscover rootConfig unreadableFile [] e := by
    intro h
    cases hfound.symm.trans (h.outcome_findRoutes hbase)
  have hunread : (bindingsOf .standard unreadableFile ⟨0, "a.ts", .ofString "/a.ts"⟩).outcome =
      .error (.routeFile (.ofString "/a.ts") .notText) := by
    rw [bindingsOf, readText_unreadableFile]
    rfl
  obtain ⟨hdirectories, -, hcompleted⟩ :=
    (dependencies_generateTable .standard 2 rootConfig unreadableFile).2 [] hbase
  obtain ⟨files, analyzed, hfiles, hregistered, honce, hanalyzed, -, houtcome⟩ := hcompleted hno
  cases hfound.symm.trans hfiles
  have hnodup := (honce wellFormed_unreadableFile).1
  rw [← hregistered] at hnodup
  have hfirst := (hanalyzed ⟨1, Nat.one_pos⟩ _).1 (.alone rfl)
  rw [List.mapM_cons, hunread] at hfirst
  cases hfirst
  exact ⟨hbase, hno, wellFormed_unreadableFile, hdirectories, hregistered, hnodup, houtcome⟩

end UnreadableFile

end RouteTable
