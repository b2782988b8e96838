import RouteTable.Command.Run
import RouteTable.Proofs.Reporting
import RouteTable.Proofs.Settings.Overlay

/-!
The settings of a run. They are the standard settings, under the layers of the config files in the
order in which these are read, under the arguments of the command line. All the files that are read
have to hold a layer, and no layer may fail.
-/

namespace RouteTable

namespace Config

/-- The config files that are read: the user's, if it is there, and then the project's. -/
def files (fs : FileSystem) (environment : Environment) (root : Path) (named : Option Path) :
    List Path :=
  [environment.userConfig].filter fs.isFile ++ (projectFile? fs root named).toList

section Consulted

variable {fs fs' : FileSystem} {environment : Environment} {root : Path} {named : Option Path}

/-- The config files that loading consults, whether they are there or not. -/
def consulted (environment : Environment) (root : Path) (named : Option Path) : List Path :=
  [environment.userConfig, named.getD (root.join (.ofString fileName))]

theorem mem_consulted_of_mem_files {path : Path} (h : path ∈ files fs environment root named) :
    path ∈ consulted environment root named := by
  rcases List.mem_append.1 h with h | h
  · rw [List.mem_singleton.1 (List.mem_filter.1 h).1]
    exact List.mem_cons_self
  · have hproject : path = named.getD (root.join (.ofString fileName)) := by
      rw [Option.mem_toList] at h
      cases named with
      | some named => exact (Option.some.inj h).symm
      | none =>
        dsimp only [projectFile?] at h
        split at h
        · exact (Option.some.inj h).symm
        · cases h
    rw [hproject]
    exact List.mem_cons_of_mem _ List.mem_cons_self

theorem files_congr (h : ∀ path ∈ consulted environment root named,
      fs'.isFile path = fs.isFile path) :
    files fs' environment root named = files fs environment root named := by
  have huser : [environment.userConfig].filter fs'.isFile =
      [environment.userConfig].filter fs.isFile := by
    apply List.filter_congr
    intro path hmem
    rw [List.mem_singleton.1 hmem, h environment.userConfig List.mem_cons_self]
  have hproject : projectFile? fs' root named = projectFile? fs root named := by
    cases named with
    | some path => rfl
    | none =>
      have hroot := h (root.join (.ofString fileName)) (List.mem_cons_of_mem _ List.mem_cons_self)
      simp only [projectFile?, hroot]
  rw [files, files, hproject, huser]

end Consulted

def HoldsLayer (fs : FileSystem) (path : Path) (layer : Layer) : Prop :=
  ∃ text, fs.readText path = .ok text ∧ Layer.parse text = .ok layer

theorem withFile_eq_ok_iff {fs : FileSystem} {path : Path} {start config : Config} :
    start.withFile fs path = .ok config ↔
      ∃ layer, HoldsLayer fs path layer ∧ layer.isValid = true ∧
        config = (layer.apply start).1 := by
  rw [withFile]
  constructor
  · intro h
    split at h
    · cases h
    next text hread =>
      split at h
      · cases h
      next layer hparse =>
        split at h
        next config' happly =>
          cases h
          have hvalid : layer.isValid = true :=
            (layer.apply_snd_eq_none_iff start).1 (by rw [happly])
          exact ⟨layer, ⟨text, hread, hparse⟩, hvalid, by rw [happly]⟩
        · cases h
  · rintro ⟨layer, ⟨text, hread, hparse⟩, hvalid, rfl⟩
    have hnone : (layer.apply start).2 = none := (layer.apply_snd_eq_none_iff start).2 hvalid
    have happly : layer.apply start = ((layer.apply start).1, none) := by rw [← hnone]
    rw [hread]
    simp only [hparse]
    rw [happly]

/-- The settings of config files, each laid over those before it. -/
def withFiles (config : Config) (fs : FileSystem) : List Path → Except PassError Config
  | [] => .ok config
  | path :: paths => (config.withFile fs path).bind fun config => config.withFiles fs paths

@[simp] theorem withFiles_nil (config : Config) (fs : FileSystem) :
    config.withFiles fs [] = .ok config := rfl

@[simp] theorem withFiles_singleton (config : Config) (fs : FileSystem) (path : Path) :
    config.withFiles fs [path] = config.withFile fs path := by
  simp only [withFiles]
  cases config.withFile fs path <;> rfl

/-- Reading config files lays their layers over one another, in the order of the files. -/
theorem withFiles_eq_ok_iff {fs : FileSystem} {paths : List Path} {start config : Config} :
    start.withFiles fs paths = .ok config ↔
      ∃ layers, List.Forall₂ (HoldsLayer fs) paths layers ∧
        (∀ layer ∈ layers, layer.isValid = true) ∧ config = Layer.overlay layers start := by
  induction paths generalizing start with
  | nil =>
    rw [withFiles_nil]
    constructor
    · intro h
      cases h
      exact ⟨[], .nil, by simp, rfl⟩
    · rintro ⟨layers, hholds, -, rfl⟩
      cases hholds
      rfl
  | cons path paths ih =>
    rw [withFiles]
    constructor
    · intro h
      cases hpath : start.withFile fs path with
      | error error => rw [hpath] at h; cases h
      | ok middle =>
        rw [hpath] at h
        obtain ⟨layer, hholds, hvalid, rfl⟩ := withFile_eq_ok_iff.1 hpath
        obtain ⟨layers, hall, hvalids, rfl⟩ := ih.1 h
        exact ⟨layer :: layers, .cons hholds hall, List.forall_mem_cons.2 ⟨hvalid, hvalids⟩, rfl⟩
    · rintro ⟨_, hholds, hvalids, rfl⟩
      cases hholds with
      | @cons _ layer _ layers hholds hall =>
        obtain ⟨hvalid, hvalids⟩ := List.forall_mem_cons.1 hvalids
        have hpath : start.withFile fs path = .ok (layer.apply start).1 :=
          withFile_eq_ok_iff.2 ⟨layer, hholds, hvalid, rfl⟩
        rw [hpath]
        exact ih.2 ⟨layers, hall, hvalids, rfl⟩

/-- Loading reads the config files over the standard settings. -/
theorem outcome_load (fs : FileSystem) (environment : Environment) (root : Path)
    (named : Option Path) :
    (load fs environment root named).outcome =
      withFiles { standard with root := root } fs (files fs environment root named) := by
  have hproject (config : Config) (path : Path) :
      (do .report (.loadingProject path.shown); .ofExcept (config.withFile fs path) :
        Reporting Event PassError Config).outcome = config.withFiles fs [path] := by
    rw [withFiles_singleton]
    rfl
  cases huser : fs.isFile environment.userConfig with
  | false =>
    have hout : ¬ fs.isFile environment.userConfig = true := by simp [huser]
    rw [load, files, List.filter_cons_of_neg hout, if_neg hout, List.filter_nil, List.nil_append]
    cases projectFile? fs root named with
    | none => rfl
    | some path => exact hproject _ path
  | true =>
    rw [load, files, List.filter_cons_of_pos huser, if_pos huser, List.filter_nil,
      List.singleton_append, withFiles]
    cases projectFile? fs root named with
    | none =>
      cases withFile { standard with root := root } fs environment.userConfig with
      | error error => rfl
      | ok config => rfl
    | some path =>
      rw [Option.toList_some]
      simp only [← hproject]
      cases withFile { standard with root := root } fs environment.userConfig with
      | error error => rfl
      | ok config => rfl

end Config

namespace Command

theorem outcome_configure_eq_ok_iff {world : World} {arguments : Arguments} {config : Config} :
    (configure world arguments).outcome = .ok config ↔
      ∃ settings,
        (Config.load world.fs world.environment arguments.rootPath arguments.config).outcome =
          .ok settings ∧ config = arguments.apply settings := by
  rw [configure, Reporting.outcome_bind_eq_ok_iff]
  apply exists_congr
  intro settings
  have hload : ((Config.load world.fs world.environment arguments.rootPath
      arguments.config).relabel Deed.event fun error =>
        (⟨"Failed to load configuration for " ++ arguments.rootPath.shown, error.causes⟩ :
          Failure)).outcome = .ok settings ↔
      (Config.load world.fs world.environment arguments.rootPath arguments.config).outcome =
        .ok settings := by
    rw [Reporting.relabel]
    cases (Config.load world.fs world.environment arguments.rootPath arguments.config).outcome <;>
      simp [Except.mapError]
  rw [hload, Reporting.pure_eq, Except.ok.injEq, @eq_comm _ config]

end Command

end RouteTable
