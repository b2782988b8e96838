import RouteTable.Command.Run
import RouteTable.Proofs.Files.Changing

/-!
The files that a run writes. Nothing is written before the module is complete. Where the output file
has it already, and the dependency file its rule, a run leaves all files as they are.
-/

namespace RouteTable.Command

open Reporting Text

variable {world : World} {words : List String} {arguments : Arguments} {fs fs' : FileSystem}
  {path output : Path} {location : Location} {α β : Type}

section Deeds

def changes (step : Step α) : List FileChange :=
  changesOf step.reports

theorem changes_bind_of_ok {step : Step α} {a : α} (h : step.outcome = .ok a)
    (next : α → Step β) : changes (step >>= next) = changes step ++ changes (next a) := by
  rw [changes, reports_bind_of_ok h]
  exact List.filterMap_append

theorem changes_bind_of_error {step : Step α} {failure : Failure}
    (h : step.outcome = .error failure) (next : α → Step β) :
    changes (step >>= next) = changes step := by
  obtain ⟨reports, outcome⟩ := step
  cases h
  rfl

theorem changes_changing (context : String) (step : FileSystem.Changing) :
    changes (changing context step) = step.reports := by
  simp only [changes, changing, Reporting.relabel, changesOf, List.filterMap_map]
  exact List.filterMap_some

theorem outcome_changing_eq_ok_iff {context : String} {step : FileSystem.Changing} :
    (changing context step).outcome = .ok fs ↔ step.outcome = .ok fs := by
  rw [changing, Reporting.relabel]
  cases step.outcome <;> simp [Except.mapError]

/-- Loading the settings changes no file. -/
theorem changes_configure : changes (configure world arguments) = [] := by
  have hevents (events : List Event) : changesOf (events.map Deed.event) = [] := by
    simp [changesOf]
  rw [configure]
  generalize hstep : (Config.load world.fs world.environment arguments.rootPath
    arguments.config).relabel Deed.event (fun error => (⟨_, error.causes⟩ : Failure)) = step
  have hnone : changes step = [] := by
    rw [← hstep]
    exact hevents _
  rcases hok : step.outcome with failure | config
  · rw [changes_bind_of_error hok, hnone]
  · rw [changes_bind_of_ok hok, hnone]
    rfl

/-- Generating a module changes no file. -/
theorem changes_deeds (pass : Pass α) : changes (deeds pass) = [] := by
  simp [changes, deeds, changesOf]

theorem outcome_deeds_eq_ok_iff {pass : Pass α} {a : α} :
    (deeds pass).outcome = .ok a ↔ pass.outcome = .ok a := by
  rw [deeds]
  cases pass.outcome <;> simp [Except.mapError]

end Deeds

section Phases

/-- The part of a run that writes files, once their contents are known. -/
def writeFiles (fs : FileSystem) (arguments : Arguments) (output : Path) (text : String)
    (dependencies : List Path) : Step String := do
  let fs ← writeOutput fs output text
  match arguments.depfile with
  | none => pure ""
  | some depfile => do
    let _ ← writeDepfile fs depfile output dependencies
    pure ""

def pass (world : World) (config : Config) : Pass String :=
  generateTable .standard world.available config world.fs

/-- Where there are settings and a module, only writing files is left of a run. -/
theorem perform_of_generated {config : Config} {text : String}
    (hconfig : (configure world arguments).outcome = .ok config)
    (htext : (pass world config).outcome = .ok text) (houtput : arguments.output = some output) :
    (perform world arguments).outcome =
        (writeFiles world.fs arguments output text (pass world config).dependencies).outcome ∧
      changes (perform world arguments) =
        changes (writeFiles world.fs arguments output text (pass world config).dependencies) := by
  have hdeeds := outcome_deeds_eq_ok_iff.2 htext
  rw [pass] at hdeeds
  constructor
  · rw [perform, outcome_bind_of_ok hconfig, outcome_bind_of_ok hdeeds, houtput]
    rfl
  · rw [perform, changes_bind_of_ok hconfig, changes_bind_of_ok hdeeds, changes_configure,
      changes_deeds, houtput]
    rfl

/-- A run that ends well has settings and a module. -/
theorem generated_of_perform {printed : String}
    (hok : (perform world arguments).outcome = .ok printed) :
    ∃ config text, (configure world arguments).outcome = .ok config ∧
      (pass world config).outcome = .ok text := by
  obtain ⟨config, hconfig, hrest⟩ := outcome_bind_eq_ok_iff.1 hok
  obtain ⟨text, htext, -⟩ := outcome_bind_eq_ok_iff.1 hrest
  exact ⟨config, text, hconfig, outcome_deeds_eq_ok_iff.1 htext⟩

/-- A run without settings or without a module changes no file. -/
theorem changes_of_not_generated
    (h : (∃ failure, (configure world arguments).outcome = .error failure) ∨
      ∃ config error, (configure world arguments).outcome = .ok config ∧
        (pass world config).outcome = .error error) :
    changes (perform world arguments) = [] := by
  rw [perform]
  rcases h with ⟨failure, hfailure⟩ | ⟨config, error, hconfig, herror⟩
  · rw [changes_bind_of_error hfailure, changes_configure]
  · have hdeeds : (deeds (pass world config)).outcome =
        .error ⟨"Failed to generate route table", error.causes⟩ := by
      rw [deeds, herror]
      rfl
    rw [pass] at hdeeds
    rw [changes_bind_of_ok hconfig, changes_configure, changes_bind_of_error hdeeds, changes_deeds]
    rfl

end Phases

section Output

variable {text : String}

theorem makeParent_spec (hwf : fs.WellFormed) (hok : (makeParent fs path).outcome = .ok fs') :
    (changes (makeParent fs path)).foldlM FileSystem.change fs = .ok fs' ∧ fs'.WellFormed ∧
      fs.Grows fs' fun _ => False := by
  rw [makeParent] at hok ⊢
  split at hok
  · cases hok
    exact ⟨rfl, hwf, .refl fs _⟩
  · rename_i parent _
    rw [outcome_changing_eq_ok_iff] at hok
    rw [changes_changing]
    exact hwf.builds_makeDirectories parent fs' hok

theorem make_spec {context : String} {contents : List UInt8} (hwf : fs.WellFormed)
    (hok : (changing context (fs.make (.file path contents))).outcome = .ok fs') :
    changes (changing context (fs.make (.file path contents))) = [.file path contents] ∧
      fs.change (.file path contents) = .ok fs' ∧
      ∃ location, fs.Writes fs' path contents location := by
  rw [outcome_changing_eq_ok_iff] at hok
  rw [changes_changing]
  rw [FileSystem.make] at hok ⊢
  split at hok
  · rename_i changed hchange
    cases hok
    exact ⟨rfl, hchange, hwf.writes_of_write hchange⟩
  · cases hok

theorem writeFile_spec {contents : List UInt8} (hwf : fs.WellFormed)
    (hok : (writeFile fs path contents).outcome = .ok fs') :
    (changes (writeFile fs path contents)).foldlM FileSystem.change fs = .ok fs' ∧
      ∃ location, fs.Writes fs' path contents location := by
  rw [writeFile] at hok ⊢
  obtain ⟨built, hbuilt, hok⟩ := outcome_bind_eq_ok_iff.1 hok
  obtain ⟨made, hmade, hok⟩ := outcome_bind_eq_ok_iff.1 hok
  cases hok
  obtain ⟨hchanges, hwell, hgrows⟩ := makeParent_spec hwf hbuilt
  obtain ⟨hreports, hchange, location, hwrites⟩ := make_spec hwell hmade
  constructor
  · rw [changes_bind_of_ok hbuilt, changes_bind_of_ok hmade, hreports, List.foldlM_append, hchanges]
    change (FileSystem.change built (.file path contents) >>= fun fs => .ok fs) = _
    rw [hchange]
    rfl
  · exact ⟨location, hwrites.wellFormed,
      (hgrows.mono fun _ => False.elim).trans hwrites.grows, hwrites.find⟩

/-- An output file that is written, or that is up to date, has the text. -/
theorem writeOutput_spec (hwf : fs.WellFormed)
    (hok : (writeOutput fs path text).outcome = .ok fs') :
    (changes (writeOutput fs path text)).foldlM FileSystem.change fs = .ok fs' ∧
      ∃ location, fs.Writes fs' path (Utf8.encode text.toList) location := by
  rw [writeOutput] at hok ⊢
  split at hok
  · rename_i existing hread
    split at hok
    · rename_i hsame
      cases hok
      rw [FileSystem.read] at hread
      split at hread
      · rename_i location contents hfind
        cases hread
        subst hsame
        rw [if_pos rfl]
        exact ⟨rfl, location, hwf, .refl fs _, hfind⟩
      · cases hread
      · cases hread
      · cases hread
    · rename_i hdiffers
      rw [if_neg hdiffers]
      exact writeFile_spec hwf hok
  · exact writeFile_spec hwf hok

/-- An output file that has the text is not written. -/
theorem writeOutput_same
    (hfind : fs.find path = .ok (.file location (Utf8.encode text.toList))) :
    (writeOutput fs path text).outcome = .ok fs ∧ changes (writeOutput fs path text) = [] := by
  have hread : fs.read path = .ok (Utf8.encode text.toList) := by
    rw [FileSystem.read, hfind]
  rw [writeOutput, hread]
  dsimp only
  rw [if_pos rfl]
  exact ⟨rfl, rfl⟩

end Output

section Files

variable {text printed : String} {dependencies : List Path}

def rule (output : Path) (dependencies : List Path) : List UInt8 :=
  Utf8.encode (Depfile.text output dependencies).toList

theorem writeDepfile_spec (hwf : fs.WellFormed)
    (hok : (writeDepfile fs path output dependencies).outcome = .ok fs') :
    changes (writeDepfile fs path output dependencies) =
        [.file path (rule output dependencies)] ∧
      fs.change (.file path (rule output dependencies)) = .ok fs' ∧
      ∃ location, fs.Writes fs' path (rule output dependencies) location :=
  make_spec hwf hok

/-- A dependency file that has its rule is written once more, with the same contents. -/
theorem writeDepfile_same (hwf : fs.WellFormed)
    (hfind : fs.find path = .ok (.file location (rule output dependencies))) :
    (writeDepfile fs path output dependencies).outcome = .ok fs ∧
      changes (writeDepfile fs path output dependencies) =
        [.file path (rule output dependencies)] ∧
      fs.change (.file path (rule output dependencies)) = .ok fs := by
  have hwrite : fs.change (.file path (rule output dependencies)) = .ok fs :=
    hwf.write_same hfind
  have hmake : fs.make (.file path (rule output dependencies)) =
      ⟨[.file path (rule output dependencies)], .ok fs⟩ := by
    rw [FileSystem.make, hwrite]
  rw [writeDepfile, ← rule, hmake]
  exact ⟨rfl, rfl, hwrite⟩

/-- Whether a location is that of a file which arguments name to be written. -/
def IsWritten (fs : FileSystem) (arguments : Arguments) (location : Location) : Prop :=
  ∃ path contents, (arguments.output = some path ∨ arguments.depfile = some path) ∧
    fs.find path = .ok (.file location contents)

def AreDifferent (fs : FileSystem) (arguments : Arguments) : Prop :=
  ∀ output depfile, arguments.output = some output → arguments.depfile = some depfile →
    ∀ location contents contents', fs.find output = .ok (.file location contents) →
      fs.find depfile ≠ .ok (.file location contents')

/-- Whether the output file has a text, and the dependency file the rule for it. -/
structure IsUpToDate (fs : FileSystem) (arguments : Arguments) (output : Path) (text : String)
    (dependencies : List Path) : Prop where
  hasText : ∃ location, fs.find output = .ok (.file location (Utf8.encode text.toList))
  hasRule : ∀ depfile, arguments.depfile = some depfile →
    ∃ location, fs.find depfile = .ok (.file location (rule output dependencies))

section Performed

variable {depfile : Path} {middle last : FileSystem} (hwf : fs.WellFormed)
  (hmiddle : (writeOutput fs output text).outcome = .ok middle)
include hwf hmiddle

theorem writeFiles_of_none (hdepfile : arguments.depfile = none) :
    (writeFiles fs arguments output text dependencies).outcome = .ok "" ∧
      fs.perform (changes (writeFiles fs arguments output text dependencies)) = middle := by
  obtain ⟨hchanges, -⟩ := writeOutput_spec hwf hmiddle
  have hend : changes (pure "" : Step String) = [] := rfl
  rw [writeFiles, outcome_bind_of_ok hmiddle, changes_bind_of_ok hmiddle, hdepfile]
  dsimp only
  rw [hend, List.append_nil]
  exact ⟨rfl, FileSystem.perform_of_foldlM hchanges⟩

theorem writeFiles_of_some (hdepfile : arguments.depfile = some depfile)
    (hlast : (writeDepfile middle depfile output dependencies).outcome = .ok last) :
    (writeFiles fs arguments output text dependencies).outcome = .ok "" ∧
      fs.perform (changes (writeFiles fs arguments output text dependencies)) = last := by
  obtain ⟨hchanges, location, hwrites⟩ := writeOutput_spec hwf hmiddle
  obtain ⟨hreports, hchange, -⟩ := writeDepfile_spec hwrites.wellFormed hlast
  have hend : changes (pure "" : Step String) = [] := rfl
  have hrule : [FileChange.file depfile (rule output dependencies)].foldlM FileSystem.change
      middle = .ok last := by
    rw [List.foldlM_cons, hchange]
    rfl
  rw [writeFiles, outcome_bind_of_ok hmiddle, changes_bind_of_ok hmiddle, hdepfile]
  dsimp only
  rw [outcome_bind_of_ok hlast, changes_bind_of_ok hlast, hend, List.append_nil, hreports]
  refine ⟨rfl, FileSystem.perform_of_foldlM ?_⟩
  rw [List.foldlM_append, hchanges]
  exact hrule

end Performed

/-- Files that are written stay up to date, and no others change. -/
theorem writeFiles_spec (hwf : fs.WellFormed) (houtput : arguments.output = some output)
    (hok : (writeFiles fs arguments output text dependencies).outcome = .ok printed)
    (hafter : fs.perform (changes (writeFiles fs arguments output text dependencies)) = fs')
    (hdifferent : AreDifferent fs' arguments) :
    fs'.WellFormed ∧ fs.Grows fs' (IsWritten fs' arguments) ∧
      IsUpToDate fs' arguments output text dependencies := by
  rw [writeFiles] at hok
  obtain ⟨middle, hmiddle, hok⟩ := outcome_bind_eq_ok_iff.1 hok
  obtain ⟨-, location, hwrites⟩ := writeOutput_spec hwf hmiddle
  cases hdepfile : arguments.depfile with
  | none =>
    obtain rfl := (writeFiles_of_none hwf hmiddle hdepfile).2.symm.trans hafter
    refine ⟨hwrites.wellFormed, hwrites.grows.mono ?_, ⟨location, hwrites.find⟩, ?_⟩
    · rintro _ rfl
      exact ⟨output, _, .inl houtput, hwrites.find⟩
    · intro depfile hsome
      cases hdepfile.symm.trans hsome
  | some depfile =>
    rw [hdepfile] at hok
    obtain ⟨last, hlast, -⟩ := outcome_bind_eq_ok_iff.1 hok
    obtain ⟨-, -, location', hwrites'⟩ := writeDepfile_spec hwrites.wellFormed hlast
    obtain rfl := (writeFiles_of_some hwf hmiddle hdepfile hlast).2.symm.trans hafter
    obtain ⟨contents, hfind, hsame⟩ := hwrites'.grows.find_file hwrites.find
    have hne : location ≠ location' := by
      rintro rfl
      exact hdifferent output depfile houtput hdepfile _ _ _ hfind hwrites'.find
    rw [hsame hne] at hfind
    refine ⟨hwrites'.wellFormed, ?_, ⟨location, hfind⟩, ?_⟩
    · refine (hwrites.grows.mono ?_).trans (hwrites'.grows.mono ?_)
      · rintro _ rfl
        exact ⟨output, _, .inl houtput, hfind⟩
      · rintro _ rfl
        exact ⟨depfile, _, .inr hdepfile, hwrites'.find⟩
    · intro depfile' hsome
      cases hdepfile.symm.trans hsome
      exact ⟨location', hwrites'.find⟩

/-- Files that are up to date are left as they are. -/
theorem writeFiles_upToDate (hwf : fs.WellFormed)
    (h : IsUpToDate fs arguments output text dependencies) :
    (writeFiles fs arguments output text dependencies).outcome = .ok "" ∧
      fs.perform (changes (writeFiles fs arguments output text dependencies)) = fs ∧
      ∀ change ∈ changes (writeFiles fs arguments output text dependencies),
        ∃ depfile contents, arguments.depfile = some depfile ∧
          change = .file depfile contents := by
  obtain ⟨location, hfind⟩ := h.hasText
  obtain ⟨houtcome, hnone⟩ := writeOutput_same hfind
  rw [writeFiles, outcome_bind_of_ok houtcome, changes_bind_of_ok houtcome, hnone, List.nil_append]
  cases hdepfile : arguments.depfile with
  | none => exact ⟨rfl, rfl, List.forall_mem_nil _⟩
  | some depfile =>
    obtain ⟨location', hfind'⟩ := h.hasRule depfile hdepfile
    obtain ⟨hok, hchanges, hwrite⟩ := writeDepfile_same hwf hfind'
    dsimp only
    rw [outcome_bind_of_ok hok, changes_bind_of_ok hok, hchanges]
    refine ⟨rfl, ?_, ?_⟩
    · change fs.perform [.file depfile (rule output dependencies)] = fs
      rw [FileSystem.perform, hwrite]
      rfl
    · intro change hmem
      obtain rfl := List.mem_singleton.1 hmem
      exact ⟨depfile, _, rfl, rfl⟩

end Files

section Outcomes

variable {verbosity : Nat} {step : Step String}

theorem status_ofStep_eq_zero_iff :
    (Outcome.ofStep fs verbosity step).status = 0 ↔ ∃ text, step.outcome = .ok text := by
  rw [Outcome.ofStep]
  rcases step.outcome with failure | text
  · simp
  · simp

theorem changes_ofStep : (Outcome.ofStep fs verbosity step).changes = changes step := by
  rw [Outcome.ofStep, changes]
  rcases step.outcome with failure | text <;> rfl

theorem fs_ofStep : (Outcome.ofStep fs verbosity step).fs = fs.perform (changes step) := by
  rw [Outcome.ofStep, changes]
  rcases step.outcome with failure | text <;> rfl

theorem run_eq (world : World) (hread : Arguments.read words = .ok arguments) :
    run world words = .ofStep world.fs arguments.verbosity (perform world arguments) := by
  rw [run, hread]

/-- A run without settings or without a module does not end well. -/
theorem generated_of_status (hread : Arguments.read words = .ok arguments)
    (hstatus : (run world words).status = 0) :
    ∃ config text, (configure world arguments).outcome = .ok config ∧
      (pass world config).outcome = .ok text := by
  rw [run_eq world hread, status_ofStep_eq_zero_iff] at hstatus
  obtain ⟨_, hok⟩ := hstatus
  exact generated_of_perform hok

end Outcomes

end RouteTable.Command
