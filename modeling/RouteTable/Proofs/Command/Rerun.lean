import Mathlib.Data.List.Forall2
import RouteTable.Proofs.Command.Empty

/-!
Two runs, one right after the other, with the same arguments. The second finds everything up to
date, unless the first has made something that a run reads.
-/

namespace RouteTable

open Reporting Text

namespace Config

variable {fs fs' : FileSystem} {written : Location → Prop} {environment : Environment}
  {root : Path} {named : Option Path}

/-- Settings are loaded once more as before, if the config files that are consulted are the same and
none of them is written. -/
theorem load_grows {config : Config} (h : fs.Grows fs' written)
    (hunwritten : ∀ path ∈ consulted environment root named, ∀ location contents,
      fs'.find path = .ok (.file location contents) → ¬ written location)
    (hsame : ∀ path ∈ consulted environment root named, fs'.isFile path → fs.isFile path)
    (hok : (load fs environment root named).outcome = .ok config) :
    (load fs' environment root named).outcome = .ok config := by
  have hfiles : files fs' environment root named = files fs environment root named := by
    apply files_congr
    intro path hmem
    rw [Bool.eq_iff_iff]
    exact ⟨hsame path hmem, h.isFile⟩
  rw [outcome_load] at hok ⊢
  obtain ⟨layers, hholds, hvalid, hconfig⟩ := withFiles_eq_ok_iff.1 hok
  rw [hfiles]
  refine withFiles_eq_ok_iff.2 ⟨layers, ?_, hvalid, hconfig⟩
  have hconsulted : List.Forall₂
      (fun path layer => path ∈ consulted environment root named ∧ HoldsLayer fs path layer)
      (files fs environment root named) layers :=
    (List.forall₂_and_left _ _).2 ⟨fun _ => mem_consulted_of_mem_files, hholds⟩
  refine hconsulted.imp ?_
  rintro path layer ⟨hmem, text, hread, hparse⟩
  exact ⟨text, h.readText hread (hunwritten path hmem), hparse⟩

end Config

namespace Command

variable {world : World} {arguments : Arguments} {config : Config} {base : Location}

/-- Whether the files that are written are apart from those that a run reads: they are different,
and after the run neither is reached by the walk or is a config file that is consulted. -/
structure IsApart (world : World) (arguments : Arguments) (config : Config) (base : Location)
    (after : FileSystem) : Prop where
  different : AreDifferent after arguments
  unreached : ∀ names n location contents, FileSystem.Shows config.hidden names →
    after.Leads [] .name (base ++ names) n (.file location contents) →
      ¬ IsWritten after arguments location
  unconsulted : ∀ path ∈ Config.consulted world.environment arguments.rootPath arguments.config,
    ∀ location contents, after.find path = .ok (.file location contents) →
      ¬ IsWritten after arguments location

/-- Whether each config file that is consulted after a run was there before it. -/
def FindsNoMore (world : World) (arguments : Arguments) (after : FileSystem) : Prop :=
  ∀ path ∈ Config.consulted world.environment arguments.rootPath arguments.config,
    after.isFile path → world.fs.isFile path

/-- A run in what another has left behind has the same settings. -/
theorem configure_again {after : FileSystem} (h : world.fs.Grows after (IsWritten after arguments))
    (hapart : IsApart world arguments config base after)
    (hfinds : FindsNoMore world arguments after)
    (hconfig : (configure world arguments).outcome = .ok config) :
    (configure { world with fs := after } arguments).outcome = .ok config := by
  obtain ⟨settings, hload, rfl⟩ := outcome_configure_eq_ok_iff.1 hconfig
  exact outcome_configure_eq_ok_iff.2
    ⟨settings, Config.load_grows h hapart.unconsulted hfinds hload, rfl⟩

/-- Where loading the settings or generating the module fails, no file changes. After a run that
ends well, another with the same arguments ends well and leaves all files as they are, without
writing the output file, if the first has made nothing that a run reads: if the files that it wrote
are apart from those that are read, and the directories that it made lead to no config file that was
not found before and have no path that the system refuses to the walk. -/
theorem run_again (world : World) (words : List String) (arguments : Arguments) :
    (Arguments.read words = .ok arguments →
      ((∃ failure, (configure world arguments).outcome = .error failure) ∨
        ∃ config error, (configure world arguments).outcome = .ok config ∧
          (generateTable .standard world.available config world.fs).outcome = .error error) →
      (run world words).changes = [] ∧ (run world words).fs = world.fs) ∧
    ∀ config base after, Succeeds world words arguments config base →
      (run world words).fs = after → IsApart world arguments config base after →
      FindsNoMore world arguments after → world.fs.TakesMade after config.hidden base →
        (run { world with fs := after } words).status = 0 ∧
        (run { world with fs := after } words).fs = after ∧
        ∀ change ∈ (run { world with fs := after } words).changes, ∃ depfile contents,
          arguments.depfile = some depfile ∧ change = .file depfile contents := by
  constructor
  · intro hread h
    rw [run_eq world hread, changes_ofStep, fs_ofStep, changes_of_not_generated h]
    exact ⟨rfl, rfl⟩
  · intro config base after hsucceeds hafter hapart hfinds hmade
    obtain ⟨hwf, hread, ⟨output, houtput⟩, hconfig, hbase, hstatus⟩ := hsucceeds
    rw [run_eq world hread, status_ofStep_eq_zero_iff] at hstatus
    obtain ⟨printed, hok⟩ := hstatus
    obtain ⟨config', text, hconfig', htext⟩ := generated_of_perform hok
    cases hconfig.symm.trans hconfig'
    obtain ⟨houtcome, hchanges⟩ := perform_of_generated hconfig htext houtput
    rw [houtcome] at hok
    rw [run_eq world hread, fs_ofStep, hchanges] at hafter
    obtain ⟨hwf', hgrows, hupToDate⟩ :=
      writeFiles_spec hwf houtput hok hafter hapart.different
    have hconfig' := configure_again hgrows hapart hfinds hconfig
    obtain ⟨htext', hdependencies⟩ :
        (pass { world with fs := after } config).outcome = .ok text ∧
          (pass { world with fs := after } config).dependencies =
            (pass world config).dependencies :=
      generateTable_grows hwf hwf' hgrows hbase hmade hapart.unreached htext
    obtain ⟨houtcome', hchanges'⟩ := perform_of_generated hconfig' htext' houtput
    rw [← hdependencies] at hupToDate
    obtain ⟨hok', hsame, honly⟩ := writeFiles_upToDate hwf' hupToDate
    rw [run_eq { world with fs := after } hread, status_ofStep_eq_zero_iff, fs_ofStep,
      changes_ofStep, hchanges']
    exact ⟨⟨"", houtcome'.trans hok'⟩, hsame, honly⟩

section Samples

/-- A config file that is no text and a directory without files, beside what is made. -/
def sampleFiles (made : FileEntries) : FileSystem where
  root := .directory
    ([(.ofString "fsroutes.toml", .file [0xFF]), (.ofString "r", .directory [])] ++ made)
  workingDirectory := []

def sampleWorld (made : FileEntries) : World where
  fs := sampleFiles made
  environment := ⟨.ofString "/home", none⟩
  available := 1

/-- A directory with an output file and a dependency file. -/
def sampleMade (text rule : List UInt8) : FileEntries :=
  [(.ofString "new", .directory [(.ofString "o", .file text), (.ofString "d", .file rule)])]

def sampleArguments (root : Path) : Arguments :=
  { Arguments.none with
    root := some root
    base := some "/r"
    output := some (.ofString "new/o")
    depfile := some (.ofString "new/d") }

def sampleWords (root : String) : List String :=
  ["--root", root, "--base", "/r", "-o", "new/o", "--depfile", "new/d"]

theorem wellFormed_sampleFiles : (sampleFiles []).WellFormed where
  tree := by
    have hconfig : FileName.IsProper (.ofString "fsroutes.toml") := by decide
    have hbase : FileName.IsProper (.ofString "r") := by decide
    have hempty : FileNode.WellFormed (.directory []) :=
      .directory List.nodup_nil (List.forall_mem_nil _) (List.forall_mem_nil _)
    refine .directory (by decide) ?_ ?_
    · exact List.forall_mem_cons.2 ⟨hconfig, List.forall_mem_singleton.2 hbase⟩
    · exact List.forall_mem_cons.2 ⟨.file, List.forall_mem_singleton.2 hempty⟩
  workingDirectory := ⟨_, rfl⟩

/-- The user has no settings where there is nothing at home. -/
theorem isFile_userConfig {fs : FileSystem} (h : fs.root.find? [.ofString "home"] = none) :
    fs.isFile (Environment.userConfig ⟨.ofString "/home", none⟩) = false := by
  have hnames : (Environment.userConfig ⟨.ofString "/home", none⟩).names =
      .ofString "home" ::
        [.ofString ".config", .ofString "fsroutes", .ofString "config.toml"] := by decide
  have hfind : fs.find (Environment.userConfig ⟨.ofString "/home", none⟩) = .error .notFound :=
    FileSystem.find_behind_missing (by decide) hnames (List.cons_ne_nil _ _) (by decide)
      (by decide) h
  rw [FileSystem.isFile, hfind]

/-- The changes of the run, one after another. -/
theorem change_sample (text rule : List UInt8) :
    (sampleFiles []).makeDirectory (.ofString "new") =
        .ok (sampleFiles [(.ofString "new", .directory [])]) ∧
      (sampleFiles [(.ofString "new", .directory [])]).write (.ofString "new/o") text =
        .ok (sampleFiles [(.ofString "new", .directory [(.ofString "o", .file text)])]) ∧
      (sampleFiles [(.ofString "new", .directory [(.ofString "o", .file text)])]).write
        (.ofString "new/d") rule = .ok (sampleFiles (sampleMade text rule)) := by
  have hnames : (Path.ofString "new").names = [.ofString "new"] := by decide
  have hmissing : (sampleFiles []).root.find? [.ofString "new"] = none := rfl
  have houtput : FileSystem.Leads (sampleFiles [(.ofString "new", .directory [])]) []
      (Path.ofString "new/o").ending (Path.ofString "new/o").names 0
        (.vacant [.ofString "new", .ofString "o"]) := by
    have hnames : (Path.ofString "new/o").names = [.ofString "new", .ofString "o"] := by decide
    rw [hnames]
    exact .directory (by decide) (by decide) rfl (.vacant (by decide) (by decide) rfl (by decide))
  have hdepfile : FileSystem.Leads
      (sampleFiles [(.ofString "new", .directory [(.ofString "o", .file text)])]) []
      (Path.ofString "new/d").ending (Path.ofString "new/d").names 0
        (.vacant [.ofString "new", .ofString "d"]) := by
    have hnames : (Path.ofString "new/d").names = [.ofString "new", .ofString "d"] := by decide
    rw [hnames]
    exact .directory (by decide) (by decide) rfl (.vacant (by decide) (by decide) rfl (by decide))
  refine ⟨?_, ?_, ?_⟩
  · rw [FileSystem.makeDirectory_of_missing (by decide) (by decide) hnames (by decide) (by decide)
      hmissing]
    rfl
  · rw [FileSystem.write_of_leads (by decide) houtput (by decide)]
    rfl
  · rw [FileSystem.write_of_leads (by decide) hdepfile (by decide)]
    rfl

theorem wellFormed_sampleMade (text rule : List UInt8) :
    (sampleFiles (sampleMade text rule)).WellFormed := by
  obtain ⟨hmake, hwrite, hrule⟩ := change_sample text rule
  have hmade := (wellFormed_sampleFiles.makeDirectory hmake).1
  obtain ⟨_, hwrites⟩ := hmade.writes_of_write hwrite
  obtain ⟨_, hwrites'⟩ := hwrites.wellFormed.writes_of_write hrule
  exact hwrites'.wellFormed

theorem writeFiles_sample (root : Path) (text : String) (dependencies : List Path) :
    (writeFiles (sampleFiles []) (sampleArguments root) (.ofString "new/o") text
        dependencies).outcome = .ok "" ∧
      (sampleFiles []).perform (changes (writeFiles (sampleFiles []) (sampleArguments root)
        (.ofString "new/o") text dependencies)) =
        sampleFiles (sampleMade (Utf8.encode text.toList)
          (rule (.ofString "new/o") dependencies)) := by
  have hnames : (Path.ofString "new/o").names = .ofString "new" :: [.ofString "o"] := by decide
  have hmissing : (sampleFiles []).root.find? [.ofString "new"] = none := rfl
  have hfind : (sampleFiles []).find (.ofString "new/o") = .error .notFound :=
    FileSystem.find_behind_missing (by decide) hnames (List.cons_ne_nil _ _) (by decide)
      (by decide) hmissing
  have hread : (sampleFiles []).read (.ofString "new/o") = .error .notFound := by
    rw [FileSystem.read, hfind]
  have hparent : (Path.ofString "new/o").parent? = some (.ofString "new") := by decide
  obtain ⟨hmake, hwrite, hrule⟩ :=
    change_sample (Utf8.encode text.toList) (rule (.ofString "new/o") dependencies)
  have hmiddle := writeOutput_new hread hparent rfl hmake hwrite
  refine writeFiles_of_some wellFormed_sampleFiles hmiddle rfl ?_
  rw [writeDepfile, ← rule, FileSystem.make, FileSystem.change, hrule]
  rfl

/-- What the paths of the files that have been written lead to. -/
theorem find_sampleMade (text rule : List UInt8) :
    (sampleFiles (sampleMade text rule)).find (.ofString "new/o") =
        .ok (.file [.ofString "new", .ofString "o"] text) ∧
      (sampleFiles (sampleMade text rule)).find (.ofString "new/d") =
        .ok (.file [.ofString "new", .ofString "d"] rule) := by
  have houtput : (Path.ofString "new/o").ending = .name ∧
      (Path.ofString "new/o").names = [.ofString "new", .ofString "o"] := by decide
  have hdepfile : (Path.ofString "new/d").ending = .name ∧
      (Path.ofString "new/d").names = [.ofString "new", .ofString "d"] := by decide
  constructor
  · refine FileSystem.find_of_leads (by decide) (Nat.zero_le _) ?_
    rw [houtput.1, houtput.2]
    exact .directory (by decide) (by decide) rfl (.file (by decide) (by decide) rfl)
  · refine FileSystem.find_of_leads (by decide) (Nat.zero_le _) ?_
    rw [hdepfile.1, hdepfile.2]
    exact .directory (by decide) (by decide) rfl (.file (by decide) (by decide) rfl)

theorem isWritten_sampleMade_iff {root : Path} {text rule : List UInt8} {location : Location} :
    IsWritten (sampleFiles (sampleMade text rule)) (sampleArguments root) location ↔
      location = [.ofString "new", .ofString "o"] ∨
        location = [.ofString "new", .ofString "d"] := by
  obtain ⟨houtput, hdepfile⟩ := find_sampleMade text rule
  constructor
  · rintro ⟨path, contents, hpath | hpath, hfind⟩
    · cases hpath
      cases houtput.symm.trans hfind
      exact .inl rfl
    · cases hpath
      cases hdepfile.symm.trans hfind
      exact .inr rfl
  · rintro (rfl | rfl)
    · exact ⟨_, _, .inl rfl, houtput⟩
    · exact ⟨_, _, .inr rfl, hdepfile⟩

theorem areDifferent_sampleMade (root : Path) (text rule : List UInt8) :
    AreDifferent (sampleFiles (sampleMade text rule)) (sampleArguments root) := by
  obtain ⟨houtput, hdepfile⟩ := find_sampleMade text rule
  intro output depfile hout hdep location contents contents' hfind hfind'
  cases hout
  cases hdep
  cases houtput.symm.trans hfind
  cases hdepfile.symm.trans hfind'

theorem located_sample (root : Path) :
    (sampleArguments root).alone.baseLocation (sampleFiles []) = .ok [.ofString "r"] := by
  have hbase : (sampleArguments root).alone.base.startsWith "file:" = false := by
    have h : ("/r" : String).startsWith "file:" = false := by decide
    exact h
  have hpath : (sampleArguments root).alone.basePath = .ok (.ofString "/r") := by
    have habsolute : (Path.ofString "/r").isAbsolute = true := by decide
    rw [Config.basePath, hbase, if_neg Bool.false_ne_true]
    exact congrArg Except.ok (if_pos habsolute)
  have hfind : (sampleFiles []).find (.ofString "/r") = .ok (.directory [.ofString "r"] []) := by
    have hnames : (Path.ofString "/r").names = [.ofString "r"] := by decide
    refine FileSystem.find_of_leads (by decide) (Nat.zero_le _) ?_
    rw [hnames]
    exact .directory (by decide) (by decide) rfl .here
  have hlocation : Location.path [.ofString "r"] = .ofString "/r" := by decide
  have hdirectory : (sampleFiles []).isDirectory (Location.path [.ofString "r"]) = true := by
    rw [hlocation, FileSystem.isDirectory, hfind]
  rw [Config.baseLocation, hpath]
  simp [bind, Except.bind, FileSystem.locate, hfind, hdirectory]

/-- The run succeeds where it finds no config file. -/
theorem succeeds_sample {root : String}
    (hread : Arguments.read (sampleWords root) = .ok (sampleArguments (.ofString root)))
    (hroot : (sampleFiles []).isFile ((Path.ofString root).join (.ofString "fsroutes.toml")) =
      false) :
    Succeeds (sampleWorld []) (sampleWords root) (sampleArguments (.ofString root))
        (sampleArguments (.ofString root)).alone [.ofString "r"] ∧
      ∃ text rule, (run (sampleWorld []) (sampleWords root)).fs =
        sampleFiles (sampleMade text rule) := by
  have huser : (sampleFiles []).isFile (sampleWorld []).environment.userConfig = false :=
    isFile_userConfig rfl
  have hfinds : FindsNothing (sampleWorld []) (sampleArguments (.ofString root))
      [.ofString "r"] := {
    wellFormed := wellFormed_sampleFiles
    patterns := rfl
    ignored := rfl
    configured :=
      configure_alone rfl (List.forall_mem_cons.2 ⟨huser, List.forall_mem_singleton.2 hroot⟩)
    located := located_sample _
    empty := rfl }
  obtain ⟨hsucceeds, text, dependencies, hafter⟩ := hfinds.succeeds hread rfl
    fun text dependencies => (writeFiles_sample _ text dependencies).1
  exact ⟨hsucceeds, _, _, hafter.trans (writeFiles_sample _ text dependencies).2⟩

/-- The files that the run writes are apart from those that it reads, if it finds no config file
among them. -/
theorem isApart_sample {root : Path} {text rule : List UInt8}
    (hroot : ∀ location contents,
      (sampleFiles (sampleMade text rule)).find (root.join (.ofString "fsroutes.toml")) =
        .ok (.file location contents) → location = [.ofString "fsroutes.toml"]) :
    IsApart (sampleWorld []) (sampleArguments root) (sampleArguments root).alone [.ofString "r"]
        (sampleFiles (sampleMade text rule)) ∧
      (sampleFiles []).TakesMade (sampleFiles (sampleMade text rule))
        (sampleArguments root).alone.hidden [.ofString "r"] := by
  have hdirectory : (sampleFiles (sampleMade text rule)).HasDirectory [.ofString "r"] := ⟨_, rfl⟩
  have hempty : (sampleFiles (sampleMade text rule)).entriesAt [.ofString "r"] = [] := rfl
  have hwf := wellFormed_sampleMade text rule
  refine ⟨⟨areDifferent_sampleMade root text rule, ?_, ?_⟩, ?_⟩
  · intro names n location contents hshown hleads
    rcases leads_of_empty hwf hdirectory hempty hshown hleads with heq | ⟨_, heq⟩
    · cases heq
    · cases heq
  · intro path hmem location contents hfind hwritten
    have huser : (sampleFiles (sampleMade text rule)).isFile
        (sampleWorld []).environment.userConfig = false := isFile_userConfig rfl
    rcases List.mem_cons.1 hmem with rfl | hmem
    · rw [FileSystem.isFile, hfind] at huser
      cases huser
    · obtain rfl := List.mem_singleton.1 hmem
      obtain rfl := hroot _ _ hfind
      rcases isWritten_sampleMade_iff.1 hwritten with heq | heq
      · cases heq
      · cases heq
  · intro names n location inside hshown hleads hnew
    rcases leads_of_empty hwf hdirectory hempty hshown hleads with heq | ⟨_, heq⟩
    · cases heq
      exact absurd ⟨_, rfl⟩ hnew
    · cases heq

/-- Through the directory that the run makes, a config file is found. -/
theorem find_throughMade (text rule : List UInt8) :
    (sampleFiles (sampleMade text rule)).find
        ((Path.ofString "new/..").join (.ofString "fsroutes.toml")) =
      .ok (.file [.ofString "fsroutes.toml"] [0xFF]) := by
  have hpath : (Path.ofString "new/..").join (.ofString "fsroutes.toml") =
      .ofString "new/../fsroutes.toml" := by decide
  have hnames : (Path.ofString "new/../fsroutes.toml").names =
      [.ofString "new", FileSystem.upName, .ofString "fsroutes.toml"] := by decide
  have hending : (Path.ofString "new/../fsroutes.toml").ending = .name := by decide
  rw [hpath]
  refine FileSystem.find_of_leads (by decide) (Nat.zero_le _) ?_
  rw [hnames, hending]
  exact .directory (by decide) (by decide) rfl (.up (.file (by decide) (by decide) rfl))

/-- That config file is no text. -/
theorem configure_sampleMade (text rule : List UInt8) :
    ∃ failure, (configure (sampleWorld (sampleMade text rule))
      (sampleArguments (.ofString "new/.."))).outcome = .error failure := by
  have huser : (sampleFiles (sampleMade text rule)).isFile
      (sampleWorld []).environment.userConfig = false := isFile_userConfig rfl
  have hroot : (sampleFiles (sampleMade text rule)).isFile
      ((Path.ofString "new/..").join (.ofString "fsroutes.toml")) = true := by
    rw [FileSystem.isFile, find_throughMade]
  have hread : (sampleFiles (sampleMade text rule)).readText
      ((Path.ofString "new/..").join (.ofString "fsroutes.toml")) = .error .notText :=
    FileSystem.readText_eq_notText (find_throughMade text rule)
      (Utf8.decode?_of_leading?_eq_none (by decide) [])
  have hfiles : Config.files (sampleFiles (sampleMade text rule)) (sampleWorld []).environment
      (.ofString "new/..") none = [(Path.ofString "new/..").join (.ofString "fsroutes.toml")] := by
    simp [Config.files, Config.projectFile?, Config.fileName, huser, hroot]
  exact configure_error hfiles hread

theorem read_sampleWords :
    Arguments.read (sampleWords "/r") = .ok (sampleArguments (.ofString "/r")) ∧
      Arguments.read (sampleWords "new/..") = .ok (sampleArguments (.ofString "new/..")) := by
  decide

/-- In the directory without files there is no config file, whatever is made beside it. -/
theorem find_vacantConfig (made : FileEntries) :
    (sampleFiles made).find ((Path.ofString "/r").join (.ofString "fsroutes.toml")) =
      .ok (.vacant [.ofString "r", .ofString "fsroutes.toml"]) := by
  have hpath : (Path.ofString "/r").join (.ofString "fsroutes.toml") =
      .ofString "/r/fsroutes.toml" := by decide
  have hnames : (Path.ofString "/r/fsroutes.toml").names =
      [.ofString "r", .ofString "fsroutes.toml"] := by decide
  rw [hpath]
  refine FileSystem.find_of_leads (by decide) (Nat.zero_le _) ?_
  rw [hnames]
  exact .directory (by decide) (by decide) rfl (.vacant (by decide) (by decide) rfl (by decide))

/-- Where the first run finds no config file, the second finds everything up to date; and where it
finds one that is no text, it changes nothing. -/
theorem run_again_sample :
    (run (sampleWorld (sampleMade [] [])) (sampleWords "new/..")).changes = [] ∧
      ∃ after, (run (sampleWorld []) (sampleWords "/r")).fs = after ∧
        (run { sampleWorld [] with fs := after } (sampleWords "/r")).status = 0 ∧
        (run { sampleWorld [] with fs := after } (sampleWords "/r")).fs = after := by
  have hmissing (made : FileEntries) : (sampleFiles made).isFile
      ((Path.ofString "/r").join (.ofString "fsroutes.toml")) = false := by
    rw [FileSystem.isFile, find_vacantConfig]
  obtain ⟨hsucceeds, text, rule, hafter⟩ := succeeds_sample read_sampleWords.1 (hmissing [])
  obtain ⟨hapart, hmade⟩ := isApart_sample fun location contents hfind => by
    cases (find_vacantConfig _).symm.trans hfind
  have hfinds : FindsNoMore (sampleWorld []) (sampleArguments (.ofString "/r"))
      (sampleFiles (sampleMade text rule)) := by
    have huser : (sampleFiles (sampleMade text rule)).isFile
        (sampleWorld []).environment.userConfig = false := isFile_userConfig rfl
    refine List.forall_mem_cons.2 ⟨fun h => ?_, List.forall_mem_singleton.2 fun h => ?_⟩
    · cases huser.symm.trans h
    · cases (hmissing _).symm.trans h
  obtain ⟨hstatus, hsame, -⟩ := (run_again (sampleWorld []) (sampleWords "/r") _).2 _ _ _
    hsucceeds hafter hapart hfinds hmade
  obtain ⟨hchanges, -⟩ := (run_again (sampleWorld (sampleMade [] [])) (sampleWords "new/..") _).1
    read_sampleWords.2 (.inl (configure_sampleMade [] []))
  exact ⟨hchanges, _, hafter, hstatus, hsame⟩

end Samples

section Deep

def deepName : FileName :=
  List.replicate 185 0x61

/-- Directories inside one another, with a node in the innermost. -/
def deepNode (node : FileNode) : (depth : Nat) → FileNode
  | 0 => node
  | depth + 1 => .directory [(deepName, deepNode node depth)]

def deepLocation (depth : Nat) : Location :=
  List.replicate depth deepName

theorem length_deepLocation (depth : Nat) :
    ((deepLocation depth).flatMap (Path.slash :: ·)).length = depth * 186 := by
  have hname : deepName.length = 185 := List.length_replicate
  induction depth with
  | zero => rfl
  | succ depth ih =>
    rw [deepLocation, List.replicate_succ, ← deepLocation, List.flatMap_cons, List.length_append,
      ih, List.length_cons, hname]
    omega

/-- The path of the working directory is just short enough. -/
theorem usable_deepLocation : (deepLocation 22).path.bytes.contains 0 = false ∧
    (deepLocation 22).path.isEmpty = false ∧
      (deepLocation 22).path.bytes.length < FileSystem.maximalPath := by
  refine ⟨FileSystem.contains_zero_path ?_, rfl, ?_⟩
  · intro name hname hzero
    rw [List.eq_of_mem_replicate hname] at hzero
    cases List.eq_of_mem_replicate hzero
  · have hne : deepLocation 22 ≠ [] := List.cons_ne_nil _ _
    rw [FileSystem.bytes_path hne, length_deepLocation]
    decide

theorem find?_deepNode (node : FileNode) (depth : Nat) (inner : Location) :
    (deepNode node depth).find? (deepLocation depth ++ inner) = node.find? inner := by
  induction depth with
  | zero => rfl
  | succ depth ih =>
    rw [deepNode, deepLocation, List.replicate_succ, List.cons_append, FileNode.find?,
      FileNode.child?, List.lookup_cons_self, Option.bind_some]
    exact ih

theorem wellFormed_deepNode {node : FileNode} (h : node.WellFormed) (depth : Nat) :
    (deepNode node depth).WellFormed := by
  have hname : deepName.IsProper := {
    isName := by decide
    ne_up := by decide
    slash_notMem := fun h => absurd (List.eq_of_mem_replicate h) (by decide)
    length_le := by
      rw [deepName, List.length_replicate]
      decide }
  induction depth with
  | zero => exact h
  | succ depth ih =>
    exact .directory (List.nodup_singleton _) (List.forall_mem_singleton.2 hname)
      (List.forall_mem_singleton.2 ih)

/-- A working directory whose path is just short enough for there to be nothing in it that a walk
could go into. -/
def deepFiles (entries : FileEntries) : FileSystem where
  root := deepNode (.directory entries) 22
  workingDirectory := deepLocation 22

def deepWorld (entries : FileEntries) : World where
  fs := deepFiles entries
  environment := ⟨.ofString "/home", none⟩
  available := 1

/-- A directory with a hidden output file. -/
def deepMade (text : List UInt8) : FileEntries :=
  [(.ofString "new", .directory [(.ofString ".o", .file text)])]

def deepArguments : Arguments :=
  { Arguments.none with
    base := some "."
    output := some (.ofString "new/.o") }

def deepWords : List String := ["--base", ".", "-o", "new/.o"]

theorem wellFormed_deepFiles : (deepFiles []).WellFormed where
  tree := by
    have hempty : FileNode.WellFormed (.directory []) :=
      .directory List.nodup_nil (List.forall_mem_nil _) (List.forall_mem_nil _)
    exact wellFormed_deepNode hempty 22
  workingDirectory := by
    have hfind := find?_deepNode (.directory []) 22 []
    rw [List.append_nil] at hfind
    exact ⟨[], hfind⟩

/-- What is put in the innermost directory changes nothing around it. -/
theorem put_deepNode (node new : FileNode) (depth : Nat) (inner : Location) :
    (deepNode node depth).put new (deepLocation depth ++ inner) =
      deepNode (node.put new inner) depth := by
  induction depth with
  | zero => rfl
  | succ depth ih =>
    rw [deepLocation, List.replicate_succ, List.cons_append, ← deepLocation, deepNode, deepNode,
      FileNode.put, ← ih]
    simp [FileEntries.put]

theorem change_deep (text : List UInt8) :
    (deepFiles []).makeDirectory (.ofString "new") =
        .ok (deepFiles [(.ofString "new", .directory [])]) ∧
      (deepFiles [(.ofString "new", .directory [])]).write (.ofString "new/.o") text =
        .ok (deepFiles (deepMade text)) := by
  have hnames : (Path.ofString "new").names = [.ofString "new"] := by decide
  have hmissing : (deepFiles []).root.find? (deepLocation 22 ++ [.ofString "new"]) = none :=
    find?_deepNode _ _ _
  have houtput : FileSystem.Leads (deepFiles [(.ofString "new", .directory [])]) (deepLocation 22)
      (Path.ofString "new/.o").ending (Path.ofString "new/.o").names 0
        (.vacant (deepLocation 22 ++ [.ofString "new"] ++ [.ofString ".o"])) := by
    have hnames : (Path.ofString "new/.o").names = [.ofString "new", .ofString ".o"] := by decide
    rw [hnames]
    refine .directory (by decide) (by decide) (find?_deepNode _ _ _)
      (.vacant (by decide) (by decide) ?_ (by decide))
    rw [List.append_assoc]
    exact find?_deepNode _ _ _
  constructor
  · rw [FileSystem.makeDirectory_of_missing (by decide) (by decide) hnames (by decide) (by decide)
      hmissing]
    exact congrArg (fun root => Except.ok (FileSystem.mk root (deepLocation 22)))
      (put_deepNode _ _ _ _)
  · rw [FileSystem.write_of_leads (by decide) houtput (by decide), List.append_assoc]
    exact congrArg (fun root => Except.ok (FileSystem.mk root (deepLocation 22)))
      (put_deepNode _ _ _ _)

theorem wellFormed_deepMade (text : List UInt8) : (deepFiles (deepMade text)).WellFormed := by
  obtain ⟨hmake, hwrite⟩ := change_deep text
  have hmade := (wellFormed_deepFiles.makeDirectory hmake).1
  obtain ⟨_, hwrites⟩ := hmade.writes_of_write hwrite
  exact hwrites.wellFormed

theorem located_deep {entries : FileEntries} (h : (deepFiles entries).WellFormed) :
    deepArguments.alone.baseLocation (deepFiles entries) = .ok (deepLocation 22) := by
  have hbase : deepArguments.alone.base.startsWith "file:" = false := by decide
  have hjoined : deepArguments.alone.root.join (.ofString deepArguments.alone.base) =
      .ofString "./." := by decide
  have hpath : deepArguments.alone.basePath = .ok (.ofString "./.") := by
    rw [Config.basePath, hbase, hjoined]
    rfl
  have hlocate : (deepFiles entries).locate (.ofString "./.") = .ok (deepLocation 22) := by
    have hnames : (Path.ofString "./.").names = [] := by decide
    have hfind : (deepFiles entries).find (.ofString "./.") =
        .ok (.directory (deepLocation 22) ((deepFiles entries).entriesAt (deepLocation 22))) := by
      refine FileSystem.find_of_leads (by decide) (Nat.zero_le _) ?_
      rw [hnames]
      exact .here
    rw [FileSystem.locate, hfind]
  have hdirectory : (deepFiles entries).isDirectory (deepLocation 22).path = true := by
    have hdirectory : (deepFiles entries).HasDirectory (deepLocation 22) := h.workingDirectory
    have hleads := h.leads_directory hdirectory (deepLocation 22).path.ending
    have hproper := (h.tree.find? hdirectory.find?).2
    have hfind : (deepFiles entries).find (deepLocation 22).path =
        .ok (.directory (deepLocation 22) ((deepFiles entries).entriesAt (deepLocation 22))) := by
      refine FileSystem.find_of_leads usable_deepLocation (Nat.zero_le _) ?_
      rw [FileSystem.names_path hproper, FileSystem.start, if_pos (FileSystem.isAbsolute_path _)]
      exact hleads
    rw [FileSystem.isDirectory, hfind]
  rw [Config.baseLocation, hpath]
  simp [bind, Except.bind, hlocate, hdirectory]

theorem read_deepFiles : (deepFiles []).read (.ofString "new/.o") = .error .notFound := by
  have hnames : (Path.ofString "new/.o").names = .ofString "new" :: [.ofString ".o"] := by decide
  have hmissing : (deepFiles []).root.find? (deepLocation 22 ++ [.ofString "new"]) = none :=
    find?_deepNode _ _ _
  have hfind : (deepFiles []).find (.ofString "new/.o") = .error .notFound :=
    FileSystem.find_behind_missing (by decide) hnames (List.cons_ne_nil _ _) (by decide)
      (by decide) hmissing
  rw [FileSystem.read, hfind]

theorem writeFiles_deep (text : String) (dependencies : List Path) :
    (writeFiles (deepFiles []) deepArguments (.ofString "new/.o") text dependencies).outcome =
        .ok "" ∧
      (deepFiles []).perform (changes (writeFiles (deepFiles []) deepArguments
        (.ofString "new/.o") text dependencies)) =
        deepFiles (deepMade (Utf8.encode text.toList)) := by
  have hparent : (Path.ofString "new/.o").parent? = some (.ofString "new") := by decide
  obtain ⟨hmake, hwrite⟩ := change_deep (Utf8.encode text.toList)
  have hmiddle := writeOutput_new read_deepFiles hparent rfl hmake hwrite
  exact writeFiles_of_none wellFormed_deepFiles hmiddle rfl

theorem read_deepWords : Arguments.read deepWords = .ok deepArguments := by
  decide

/-- No config file is found in the working directory, if there is none. -/
theorem isFile_deepFiles {entries : FileEntries}
    (h : FileNode.find? (.directory entries) [.ofString "fsroutes.toml"] = none) :
    ∀ path ∈ Config.consulted (deepWorld []).environment deepArguments.rootPath none,
      (deepFiles entries).isFile path = false := by
  have huser : (deepFiles entries).isFile (deepWorld []).environment.userConfig = false :=
    isFile_userConfig rfl
  have hroot : (deepFiles entries).isFile
      (deepArguments.rootPath.join (.ofString "fsroutes.toml")) = false := by
    have hpath : deepArguments.rootPath.join (.ofString "fsroutes.toml") =
        .ofString "./fsroutes.toml" := by decide
    have hnames : (Path.ofString "./fsroutes.toml").names = [.ofString "fsroutes.toml"] := by decide
    have hfind : (deepFiles entries).find (.ofString "./fsroutes.toml") =
        .ok (.vacant (deepLocation 22 ++ [.ofString "fsroutes.toml"])) := by
      refine FileSystem.find_of_leads (by decide) (Nat.zero_le _) ?_
      rw [hnames]
      exact .vacant (by decide) (by decide) ((find?_deepNode _ _ _).trans h) (by decide)
    rw [hpath, FileSystem.isFile, hfind]
  exact List.forall_mem_cons.2 ⟨huser, List.forall_mem_singleton.2 hroot⟩

theorem succeeds_deep :
    Succeeds (deepWorld []) deepWords deepArguments deepArguments.alone (deepLocation 22) ∧
      ∃ text, (run (deepWorld []) deepWords).fs = deepFiles (deepMade text) := by
  have hfinds : FindsNothing (deepWorld []) deepArguments (deepLocation 22) := {
    wellFormed := wellFormed_deepFiles
    patterns := rfl
    ignored := rfl
    configured := configure_alone rfl (isFile_deepFiles rfl)
    located := located_deep wellFormed_deepFiles
    empty := by
      have hfind := find?_deepNode (.directory []) 22 []
      rw [List.append_nil] at hfind
      exact FileSystem.entriesAt_of_find? hfind }
  obtain ⟨hsucceeds, text, dependencies, hafter⟩ := hfinds.succeeds read_deepWords rfl
    fun text dependencies => (writeFiles_deep text dependencies).1
  exact ⟨hsucceeds, _, hafter.trans (writeFiles_deep text dependencies).2⟩

theorem find?_singleton {name other : FileName} {node found : FileNode}
    (h : FileNode.find? (.directory [(other, node)]) [name] = some found) :
    name = other ∧ found = node := by
  by_cases heq : name = other
  · subst heq
    rw [FileNode.find?, FileNode.child?, List.lookup_cons_self] at h
    exact ⟨rfl, (Option.some.inj h).symm⟩
  · rw [FileNode.find?, FileNode.child?, List.lookup_cons, beq_false_of_ne heq] at h
    cases h

/-- Names that are not hidden lead to no file. -/
theorem not_leads_deepMade {text : List UInt8} {names : List FileName} {n : Nat}
    {location : Location} {contents : List UInt8} (hshown : FileSystem.Shows false names) :
    ¬ (deepFiles (deepMade text)).Leads [] .name (deepLocation 22 ++ names) n
      (.file location contents) := by
  intro hleads
  have hwf := wellFormed_deepMade text
  have hbase := hwf.leads_directory hwf.workingDirectory .name
  have hfind (inner : Location) :
      (deepFiles (deepMade text)).root.find? (deepLocation 22 ++ inner) =
        FileNode.find? (.directory (deepMade text)) inner := find?_deepNode _ _ _
  rcases names with _ | ⟨name, rest⟩
  · rw [List.append_nil] at hleads
    cases hleads.unique hbase
  · obtain ⟨_, _, _, -, hfirst, hsecond⟩ := hleads.split (List.cons_ne_nil name rest)
    cases (hfirst .name).unique hbase
    cases hsecond with
    | up => exact absurd rfl (hshown _ List.mem_cons_self).1
    | file _ _ hnode =>
      cases (find?_singleton ((hfind _).symm.trans hnode)).2
    | link _ _ hnode =>
      cases (find?_singleton ((hfind _).symm.trans hnode)).2
    | directory _ _ hnode hinner =>
      obtain ⟨rfl, -⟩ := find?_singleton ((hfind _).symm.trans hnode)
      have hinside {name : FileName} {node : FileNode}
          (h : (deepFiles (deepMade text)).root.find?
            (deepLocation 22 ++ [.ofString "new"] ++ [name]) = some node) :
          name = .ofString ".o" ∧ node = .file text := by
        rw [List.append_assoc, hfind] at h
        exact find?_singleton h
      have hhidden : (FileName.ofString ".o").isHidden = true :=
        (FileName.isHidden_of_ascii (by decide)).trans (by decide)
      cases hinner with
      | up => exact absurd rfl (hshown _ (by simp)).1
      | file _ _ hnode =>
        obtain ⟨rfl, -⟩ := hinside hnode
        have hout := (hshown (.ofString ".o") (by simp)).2
        rw [hhidden] at hout
        cases hout
      | link _ _ hnode => cases (hinside hnode).2
      | directory _ _ hnode => cases (hinside hnode).2

/-- The directory that the run makes cannot be walked through. -/
theorem status_deepMade_ne_zero (text : List UInt8) :
    (run (deepWorld (deepMade text)) deepWords).status ≠ 0 := by
  intro hstatus
  have hwf := wellFormed_deepMade text
  have hdirectory : (deepFiles (deepMade text)).HasDirectory (deepLocation 22) :=
    hwf.workingDirectory
  obtain ⟨config, table, hconfig, htable⟩ := generated_of_status read_deepWords hstatus
  have halone : (configure (deepWorld (deepMade text)) deepArguments).outcome =
      .ok deepArguments.alone := configure_alone rfl (isFile_deepFiles rfl)
  cases hconfig.symm.trans halone
  obtain ⟨files, hfiles, -⟩ := outcome_bind_eq_ok_iff.1 htable
  obtain ⟨hwalk, -⟩ := walk_ok_of_findRoutes_ok (located_deep hwf) hfiles
  have hshown : ((deepFiles (deepMade text)).walkSetting false (deepLocation 22)).shows
      (.ofString "new") = true := by
    have hplain : (FileName.ofString "new").isHidden = false :=
      (FileName.isHidden_of_ascii (by decide)).trans (by decide)
    simp [Walk.Setting.shows, hplain]
  have hnew : (deepFiles (deepMade text)).HasDirectory (deepLocation 22 ++ [.ofString "new"]) :=
    ⟨_, find?_deepNode (.directory (deepMade text)) 22 [.ofString "new"]⟩
  have henters := Walk.Setting.Enters.base.directory hshown
    ((hwf.alike_sorted _).hasDirectory hnew)
  have hlong : FileSystem.maximalPath ≤
      (Location.path (deepLocation 22 ++ [.ofString "new"])).bytes.length := by
    rw [FileSystem.bytes_path (by simp), List.flatMap_append, List.length_append,
      length_deepLocation]
    decide
  exact henters.not_isTooLong hwf.sorted ((hwf.alike_sorted _).hasDirectory hdirectory) hwalk
    (decide_eq_true hlong)

/-- The files that the run writes are apart from those that it reads. -/
theorem isApart_deep (text : List UInt8) :
    IsApart (deepWorld []) deepArguments deepArguments.alone (deepLocation 22)
      (deepFiles (deepMade text)) where
  different := by
    intro output depfile _ hdepfile
    cases hdepfile
  unreached names n location contents hshown hleads :=
    absurd hleads (not_leads_deepMade hshown)
  unconsulted path hmem location contents hfind := by
    have hfile : (deepFiles (deepMade text)).isFile path = false := isFile_deepFiles rfl path hmem
    rw [FileSystem.isFile, hfind] at hfile
    cases hfile

/-- Neither condition on the directories that a run makes can be left out. In one run they lead to a
config file that is no text, in another there is one whose path the system refuses to the walk. -/
theorem run_again_fails :
    (∃ after, Succeeds (sampleWorld []) (sampleWords "new/..")
        (sampleArguments (.ofString "new/..")) (sampleArguments (.ofString "new/..")).alone
        [.ofString "r"] ∧
      (run (sampleWorld []) (sampleWords "new/..")).fs = after ∧
      IsApart (sampleWorld []) (sampleArguments (.ofString "new/.."))
        (sampleArguments (.ofString "new/..")).alone [.ofString "r"] after ∧
      (sampleFiles []).TakesMade after (sampleArguments (.ofString "new/..")).alone.hidden
        [.ofString "r"] ∧
      (run { sampleWorld [] with fs := after } (sampleWords "new/..")).status ≠ 0) ∧
    ∃ after, Succeeds (deepWorld []) deepWords deepArguments deepArguments.alone
        (deepLocation 22) ∧
      (run (deepWorld []) deepWords).fs = after ∧
      IsApart (deepWorld []) deepArguments deepArguments.alone (deepLocation 22) after ∧
      FindsNoMore (deepWorld []) deepArguments after ∧
      (run { deepWorld [] with fs := after } deepWords).status ≠ 0 := by
  constructor
  · have hmissing : (sampleFiles []).isFile
        ((Path.ofString "new/..").join (.ofString "fsroutes.toml")) = false := by
      have hnames : ((Path.ofString "new/..").join (.ofString "fsroutes.toml")).names =
          .ofString "new" :: [FileSystem.upName, .ofString "fsroutes.toml"] := by decide
      have hnode : (sampleFiles []).root.find? [.ofString "new"] = none := rfl
      have hfind : (sampleFiles []).find
          ((Path.ofString "new/..").join (.ofString "fsroutes.toml")) = .error .notFound :=
        FileSystem.find_behind_missing (by decide) hnames (List.cons_ne_nil _ _) (by decide)
          (by decide) hnode
      rw [FileSystem.isFile, hfind]
    obtain ⟨hsucceeds, text, rule, hafter⟩ := succeeds_sample read_sampleWords.2 hmissing
    obtain ⟨hapart, hmade⟩ := isApart_sample fun location contents hfind => by
      cases (find_throughMade text rule).symm.trans hfind
      rfl
    refine ⟨_, hsucceeds, hafter, hapart, hmade, fun hstatus => ?_⟩
    obtain ⟨config, _, hconfig, -⟩ := generated_of_status read_sampleWords.2 hstatus
    obtain ⟨failure, hfailure⟩ := configure_sampleMade text rule
    cases hconfig.symm.trans hfailure
  · obtain ⟨hsucceeds, text, hafter⟩ := succeeds_deep
    refine ⟨_, hsucceeds, hafter, isApart_deep text, ?_, status_deepMade_ne_zero text⟩
    intro path hmem hfile
    have hnone : (deepFiles (deepMade text)).isFile path = false := isFile_deepFiles rfl path hmem
    cases hnone.symm.trans hfile

end Deep

end Command

end RouteTable
