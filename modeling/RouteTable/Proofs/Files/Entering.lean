import RouteTable.Proofs.Files.Walking

/-!
The directories that a walk goes into, and the links under hidden names that it cannot pass. A walk
ends well only if no directory that it goes into has such a link.
-/

namespace RouteTable

open Reporting

namespace Walk

variable {setting : Setting} {stack outer : List Place} {place : Place} {name : FileName}
  {names : List FileName} {location : Location} {inside : FileEntries} {target : Path}

/-- The directories that a walk is not in while it is in those of a stack. -/
def Setting.fresh (setting : Setting) (stack : List Place) : List Location :=
  stack.foldr (fun place fresh => fresh.erase place.location) (setting.fs.root.directories [])

section Fresh

variable (hwf : setting.fs.WellFormed)
include hwf

theorem Setting.nodup_fresh (stack : List Place) : (setting.fresh stack).Nodup := by
  induction stack with
  | nil => exact hwf.tree.nodup_directories []
  | cons place outer ih => exact ih.erase place.location

/-- A directory is fresh where it is none of those that the walk is in. -/
theorem Setting.mem_fresh_iff : location ∈ setting.fresh stack ↔
    setting.fs.HasDirectory location ∧ ∀ place ∈ stack, place.location ≠ location := by
  induction stack with
  | nil =>
    rw [fresh, List.foldr_nil, hwf.tree.mem_directories]
    constructor
    · rintro ⟨inner, inside, rfl, hinside⟩
      exact ⟨⟨inside, hinside⟩, List.forall_mem_nil _⟩
    · rintro ⟨⟨inside, hinside⟩, -⟩
      exact ⟨location, inside, rfl, hinside⟩
  | cons place outer ih =>
    have hnodup := nodup_fresh hwf outer
    rw [fresh, List.foldr_cons, ← fresh, hnodup.mem_erase_iff, ih, List.forall_mem_cons]
    constructor
    · rintro ⟨hne, hdirectory, houter⟩
      exact ⟨hdirectory, hne.symm, houter⟩
    · rintro ⟨hdirectory, hne, houter⟩
      exact ⟨hne.symm, hdirectory, houter⟩

end Fresh

/-- Whether a walk goes into the directory at a place, from those around it, the innermost first. -/
inductive Setting.Enters (setting : Setting) : List Place → Place → Prop where
  | base : Enters setting [] ⟨setting.base, []⟩
  | directory {outer : List Place} {place : Place} {name : FileName}
      (h : Enters setting outer place) (hshown : setting.shows name)
      (hdirectory : setting.fs.HasDirectory (place.location ++ [name])) :
      Enters setting (place :: outer) ⟨place.location ++ [name], place.names ++ [name]⟩
  | link {outer : List Place} {place : Place} {name : FileName} {target : Path}
      {location : Location} {inside : FileEntries} (h : Enters setting outer place)
      (hshown : setting.shows name)
      (hlink : setting.fs.root.find? (place.location ++ [name]) = some (.link target))
      (hfind : setting.find (place.names ++ [name]) = .ok (.directory location inside))
      (hcycle : ∀ enclosing ∈ place :: outer, enclosing.location ≠ location) :
      Enters setting (place :: outer) ⟨location, place.names ++ [name]⟩

/-- Whether names that end with a link lead to nothing, or back to a directory of a stack. -/
def Setting.IsFault (setting : Setting) (stack : List Place) (names : List FileName) : Prop :=
  ∀ found, setting.find names = .ok found →
    (∃ location, found = .vacant location) ∨
      ∃ location inside, found = .directory location inside ∧
        ∃ place ∈ stack, place.location = location

/-- Whether there is a link that is not looked at and cannot be passed, in a directory that a walk
goes into. -/
def Setting.HidesFault (setting : Setting) : Prop :=
  ∃ outer place name target, setting.Enters outer place ∧ setting.shows name = false ∧
    setting.fs.root.find? (place.location ++ [name]) = some (.link target) ∧
    setting.IsFault (place :: outer) (place.names ++ [name])

section Links

variable (hwf : setting.fs.WellFormed)
include hwf

theorem Setting.meet_link_of_find
    (hfind : setting.find (place.names ++ [name]) = .ok (.directory location inside))
    (hcycle : ∀ enclosing ∈ stack, enclosing.location ≠ location) :
    setting.meet (setting.fresh stack) stack place name (.link target) =
      .ok (.directory location inside) := by
  have hdirectory := (reaches_of_find hwf hfind).1.hasDirectory
  have hfresh := (mem_fresh_iff hwf).2 ⟨hdirectory, hcycle⟩
  simp only [meet, hfind, if_pos hfresh]

/-- A walk passes the links that are no faults. -/
theorem Setting.exists_meet_link_iff :
    (∃ met, setting.meet (setting.fresh stack) stack place name (.link target) = .ok met) ↔
      ¬ setting.IsFault stack (place.names ++ [name]) := by
  constructor
  · rintro ⟨met, hmeet⟩ hfault
    rcases meet_link_eq_ok hmeet with ⟨location, contents, -, hfind⟩ |
      ⟨location, inside, -, hfresh, hfind⟩
    · rcases hfault _ hfind with ⟨_, heq⟩ | ⟨_, _, heq, -⟩
      · cases heq
      · cases heq
    · rcases hfault _ hfind with ⟨_, heq⟩ | ⟨_, _, heq, enclosing, hmem, hlocation⟩
      · cases heq
      · cases heq
        exact ((mem_fresh_iff hwf).1 hfresh).2 enclosing hmem hlocation
  · intro hfault
    rcases hfind : setting.find (place.names ++ [name]) with
      fault | (⟨location, contents⟩ | ⟨location, inside⟩ | location)
    · refine absurd (fun found hfound => ?_) hfault
      cases hfind.symm.trans hfound
    · exact ⟨.file, by simp only [meet, hfind]⟩
    · refine ⟨.directory location inside, meet_link_of_find hwf hfind ?_⟩
      intro enclosing hmem hlocation
      refine hfault fun found hfound => .inr ⟨location, inside, ?_, enclosing, hmem, hlocation⟩
      exact Except.ok.inj (hfound.symm.trans hfind)
    · refine absurd (fun found hfound => .inl ⟨location, ?_⟩) hfault
      exact Except.ok.inj (hfound.symm.trans hfind)

end Links

theorem Setting.Enters.shown (h : setting.Enters outer place) :
    ∀ name ∈ place.names, setting.shows name := by
  induction h with
  | base => exact List.forall_mem_nil _
  | directory _ hshown _ ih =>
    exact List.forall_mem_append.2 ⟨ih, List.forall_mem_singleton.2 hshown⟩
  | link _ hshown _ _ _ ih =>
    exact List.forall_mem_append.2 ⟨ih, List.forall_mem_singleton.2 hshown⟩

section Entered

variable (hwf : setting.fs.WellFormed)
include hwf

theorem Setting.Enters.reaches (hbase : setting.fs.HasDirectory setting.base)
    (h : setting.Enters outer place) : setting.Reaches place := by
  induction h with
  | base =>
    refine ⟨hbase, 0, ?_⟩
    rw [List.append_nil]
    exact hwf.leads_directory hbase .name
  | @directory outer place name _ _ hdirectory ih =>
    have hmeet : setting.meet [] outer place name
        (.directory (setting.fs.entriesAt (place.location ++ [name]))) =
          .ok (.directory (place.location ++ [name]) _) := rfl
    exact (ih.inner hwf hdirectory.find? hmeet).1
  | link _ _ _ hfind _ _ => exact (reaches_of_find hwf hfind).1

/-- A walk goes into the directories that it meets under names that are looked at. -/
theorem Setting.Enters.inner {node : FileNode} (h : setting.Enters outer place)
    (hshown : setting.shows name)
    (hnode : setting.fs.root.find? (place.location ++ [name]) = some node)
    (hmeet : setting.meet (setting.fresh (place :: outer)) (place :: outer) place name node =
      .ok (.directory location inside)) :
    setting.Enters (place :: outer) ⟨location, place.names ++ [name]⟩ ∧
      inside = setting.fs.entriesAt location := by
  cases node with
  | file => cases hmeet
  | directory =>
    cases hmeet
    exact ⟨h.directory hshown ⟨inside, hnode⟩, (FileSystem.entriesAt_of_find? hnode).symm⟩
  | link target =>
    rcases meet_link_eq_ok hmeet with ⟨_, _, heq, -⟩ | ⟨_, _, heq, hfresh, hfind⟩
    · cases heq
    · cases heq
      have hcycle := ((mem_fresh_iff hwf).1 hfresh).2
      exact ⟨h.link hshown hnode hfind hcycle, (reaches_of_find hwf hfind).2⟩

/-- Without a hidden fault, a walk passes what is not looked at. -/
theorem Setting.Enters.exists_meet_hidden {node : FileNode} (h : setting.Enters outer place)
    (hfault : ¬ setting.HidesFault) (hhidden : setting.shows name = false)
    (hnode : setting.fs.root.find? (place.location ++ [name]) = some node) :
    ∃ met, setting.meet (setting.fresh (place :: outer)) (place :: outer) place name node =
      .ok met := by
  cases node with
  | file => exact ⟨.file, rfl⟩
  | directory inside => exact ⟨.directory _ inside, rfl⟩
  | link target =>
    apply (exists_meet_link_iff hwf).2
    intro hlink
    exact hfault ⟨outer, place, name, target, h, hhidden, hnode, hlink⟩

/-- A walk that ends well ends well in every directory that it goes into. -/
theorem Setting.Enters.outcome_entries (hbase : setting.fs.HasDirectory setting.base)
    (hok : (entries setting (setting.fresh [⟨setting.base, []⟩]) [⟨setting.base, []⟩]
      ⟨setting.base, []⟩ (setting.fs.entriesAt setting.base)).outcome = .ok ())
    (h : setting.Enters outer place) :
    (entries setting (setting.fresh (place :: outer)) (place :: outer) place
      (setting.fs.entriesAt place.location)).outcome = .ok () := by
  induction h with
  | base => exact hok
  | directory h hshown hdirectory ih =>
    have hmem := (hwf.mem_entriesAt (h.reaches hwf hbase).hasDirectory).2 hdirectory.find?
    have hsingle := outcome_entries_eq_ok_iff.1 ih _ hmem
    rw [entries_of_directory_of_ok hsingle rfl hshown] at hsingle
    exact hsingle
  | link h hshown hlink hfind hcycle ih =>
    have hmem := (hwf.mem_entriesAt (h.reaches hwf hbase).hasDirectory).2 hlink
    have hsingle := outcome_entries_eq_ok_iff.1 ih _ hmem
    obtain ⟨-, rfl⟩ := reaches_of_find hwf hfind
    rw [entries_of_directory_of_ok hsingle (meet_link_of_find hwf hfind hcycle) hshown] at hsingle
    exact hsingle

/-- A walk that ends well has passed all links. -/
theorem Setting.not_hidesFault_of_ok (hbase : setting.fs.HasDirectory setting.base)
    (hok : (entries setting (setting.fresh [⟨setting.base, []⟩]) [⟨setting.base, []⟩]
      ⟨setting.base, []⟩ (setting.fs.entriesAt setting.base)).outcome = .ok ()) :
    ¬ setting.HidesFault := by
  rintro ⟨outer, place, name, target, henters, -, hlink, hfault⟩
  have hmem := (hwf.mem_entriesAt (henters.reaches hwf hbase).hasDirectory).2 hlink
  have hplace := henters.outcome_entries hwf hbase hok
  have hmet := exists_met_of_ok (outcome_entries_eq_ok_iff.1 hplace _ hmem)
  exact (exists_meet_link_iff hwf).1 hmet hfault

end Entered

end Walk

end RouteTable
