import RouteTable.Proofs.Command.Configure
import RouteTable.Proofs.Command.Writing
import RouteTable.Proofs.Pass.Regeneration

/-!
Runs that find no route files. Such a run succeeds with the standard settings and globs, if it can
write its files.
-/

namespace RouteTable.Command

open Reporting Text

variable {world : World} {words : List String} {arguments : Arguments} {config : Config}
  {base : Location} {output : Path} {fs : FileSystem}

/-- From an empty directory, names lead to nothing. -/
theorem leads_of_empty {names : List FileName} {n : Nat} {found : Found} {hidden : Bool}
    (hwf : fs.WellFormed) (hdirectory : fs.HasDirectory base) (hempty : fs.entriesAt base = [])
    (hshown : FileSystem.Shows hidden names)
    (h : fs.Leads [] .name (base ++ names) n found) :
    found = .directory base [] ∨ ∃ location, found = .vacant location := by
  have hbase := hwf.leads_directory hdirectory .name
  rcases names with _ | ⟨name, rest⟩
  · rw [List.append_nil] at h
    rw [h.unique hbase, hempty]
    exact .inl rfl
  · obtain ⟨_, _, _, -, hfirst, hsecond⟩ := h.split (List.cons_ne_nil name rest)
    cases (hfirst .name).unique hbase
    have hmissing : fs.root.find? (base ++ [name]) = none := by
      rw [← FileSystem.lookup_entriesAt, hempty]
      rfl
    cases hsecond with
    | up => exact absurd rfl (hshown _ List.mem_cons_self).1
    | vacant => exact .inr ⟨_, rfl⟩
    | file _ _ hnode => cases hmissing.symm.trans hnode
    | directory _ _ hnode => cases hmissing.symm.trans hnode
    | link _ _ hnode => cases hmissing.symm.trans hnode

/-- Without files, there is a module without routes. -/
theorem pass_of_empty (hwf : world.fs.WellFormed)
    (hpatterns : config.patterns = Config.standard.patterns)
    (hignored : config.ignored = Config.standard.ignored)
    (hbase : config.baseLocation world.fs = .ok base) (hempty : world.fs.entriesAt base = []) :
    ∃ text, (pass world config).outcome = .ok text := by
  have hdirectory := Config.hasDirectory_of_baseLocation hwf hbase
  obtain ⟨includes, ignores, hincludes, hignores, -⟩ := compile_standard
  rw [← hpatterns] at hincludes
  rw [← hignored] at hignores
  have hsorted : world.fs.sorted.entriesAt base = [] := by
    have hnode : world.fs.sorted.root.find? base = some (.directory []) := by
      rw [FileSystem.sorted, hwf.tree.find?_sorted, hdirectory.find?, hempty, Option.map_some,
        FileNode.sorted_directory, FileNode.sortedEntries, sortByKey, List.mergeSort_nil]
    exact FileSystem.entriesAt_of_find? hnode
  have hwalk : world.fs.walk config.hidden base = pure () := by
    rw [FileSystem.walk_eq, hsorted, Walk.entries_nil]
  have hfiles : (findRoutes config world.fs).outcome = .ok [] := by
    rw [outcome_findRoutes hbase hincludes hignores, hwalk, pure_eq, List.filterMap_nil, sortByKey,
      List.mergeSort_nil]
    rfl
  have hworkers : config.workersFor world.available 0 = 1 := by
    rw [Config.workersFor, Nat.min_zero, Nat.max_eq_left (Nat.zero_le 1)]
  rw [pass, generateTable, outcome_bind_of_ok hfiles, List.length_nil, hworkers]
  exact ⟨_, rfl⟩

/-- A run that ends well and has an output file, with its settings and its base directory. -/
structure Succeeds (world : World) (words : List String) (arguments : Arguments) (config : Config)
    (base : Location) : Prop where
  wellFormed : world.fs.WellFormed
  read : Arguments.read words = .ok arguments
  output : ∃ output, arguments.output = some output
  configured : (configure world arguments).outcome = .ok config
  located : config.baseLocation world.fs = .ok base
  status : (run world words).status = 0

/-- The settings of a run that finds no config file. -/
def Arguments.alone (arguments : Arguments) : Config :=
  arguments.apply { Config.standard with root := arguments.rootPath }

theorem configure_alone (hconfig : arguments.config = none)
    (hnone : ∀ path ∈ Config.consulted world.environment arguments.rootPath none,
      world.fs.isFile path = false) :
    (configure world arguments).outcome = .ok arguments.alone := by
  refine outcome_configure_eq_ok_iff.2 ⟨_, ?_, rfl⟩
  have huser := hnone world.environment.userConfig List.mem_cons_self
  have hroot := hnone _ (List.mem_cons_of_mem _ List.mem_cons_self)
  have hfiles : Config.files world.fs world.environment arguments.rootPath none = [] := by
    simp only [Option.getD_none] at hroot
    simp [Config.files, Config.projectFile?, huser, hroot]
  rw [hconfig, Config.outcome_load, hfiles, Config.withFiles_nil]

/-- Whether a run finds no config file and no route files, and takes the standard globs. -/
structure FindsNothing (world : World) (arguments : Arguments) (base : Location) : Prop where
  wellFormed : world.fs.WellFormed
  patterns : arguments.patterns = []
  ignored : arguments.ignored = []
  configured : (configure world arguments).outcome = .ok arguments.alone
  located : arguments.alone.baseLocation world.fs = .ok base
  empty : world.fs.entriesAt base = []

/-- A run that finds nothing succeeds, if it can write its files. -/
theorem FindsNothing.succeeds (h : FindsNothing world arguments base)
    (hread : Arguments.read words = .ok arguments) (houtput : arguments.output = some output)
    (hwrites : ∀ text dependencies,
      (writeFiles world.fs arguments output text dependencies).outcome = .ok "") :
    Succeeds world words arguments arguments.alone base ∧
      ∃ text dependencies, (run world words).fs =
        world.fs.perform (changes (writeFiles world.fs arguments output text dependencies)) := by
  have hpatterns : arguments.alone.patterns = Config.standard.patterns := by
    simp [Arguments.alone, Arguments.apply, h.patterns]
  have hignored : arguments.alone.ignored = Config.standard.ignored := by
    simp [Arguments.alone, Arguments.apply, h.ignored]
  obtain ⟨text, htext⟩ := pass_of_empty h.wellFormed hpatterns hignored h.located h.empty
  obtain ⟨houtcome, hchanges⟩ := perform_of_generated h.configured htext houtput
  constructor
  · refine ⟨h.wellFormed, hread, ⟨output, houtput⟩, h.configured, h.located, ?_⟩
    rw [run_eq world hread, status_ofStep_eq_zero_iff]
    exact ⟨"", houtcome.trans (hwrites text _)⟩
  · exact ⟨text, _, by rw [run_eq world hread, fs_ofStep, hchanges]⟩

/-- An output file is written into a directory that has to be made. -/
theorem writeOutput_new {path parent : Path} {fault : FileFault} {text : String}
    {made written : FileSystem} (hread : fs.read path = .error fault)
    (hparent : path.parent? = some parent) (hne : parent.isEmpty = false)
    (hmake : fs.makeDirectory parent = .ok made)
    (hwrite : made.write path (Utf8.encode text.toList) = .ok written) :
    (writeOutput fs path text).outcome = .ok written := by
  have hbuild : fs.makeDirectories parent = ⟨[.directory parent], .ok made⟩ := by
    rw [FileSystem.makeDirectories, FileSystem.makeDirectoriesWithin, hne,
      if_neg Bool.false_ne_true, hmake]
    dsimp only
    rw [FileSystem.makeUnlessThere, hmake]
  have hfirst : (makeParent fs path).outcome = .ok made := by
    rw [makeParent, hparent]
    dsimp only
    rw [hbuild]
    rfl
  rw [writeOutput, hread]
  dsimp only
  rw [writeFile, outcome_bind_of_ok hfirst, FileSystem.make, FileSystem.change, hwrite]
  rfl

/-- Settings cannot be loaded where the only config file that is found cannot be read. -/
theorem configure_error {path : Path} {fault : FileFault}
    (hfiles : Config.files world.fs world.environment arguments.rootPath arguments.config = [path])
    (hread : world.fs.readText path = .error fault) :
    ∃ failure, (configure world arguments).outcome = .error failure := by
  rcases hconfigure : (configure world arguments).outcome with failure | config
  · exact ⟨failure, rfl⟩
  · obtain ⟨settings, hload, -⟩ := outcome_configure_eq_ok_iff.1 hconfigure
    rw [Config.outcome_load, hfiles, Config.withFiles_singleton, Config.withFile, hread] at hload
    cases hload

end RouteTable.Command
