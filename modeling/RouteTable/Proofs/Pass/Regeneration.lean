import RouteTable.Proofs.Files.Rewalking
import RouteTable.Proofs.Pass.Dependencies
import RouteTable.Proofs.Pass.Hidden

/-!
A pass once more, when directories have been made and files written since. It generates the same
text and depends on the same files, if what has been written is no file that the walk reaches.
-/

namespace RouteTable

open Reporting

namespace FileSystem

variable {fs fs' : FileSystem} {written : Location → Prop} {location : Location} {path : Path}

theorem Grows.isDirectory (h : fs.Grows fs' written) (hpath : fs.isDirectory path) :
    fs'.isDirectory path := by
  rw [FileSystem.isDirectory] at hpath
  split at hpath
  · rename_i hfind
    rw [FileSystem.isDirectory, h.find_directory hfind]
  · cases hpath

theorem Grows.isFile (h : fs.Grows fs' written) (hpath : fs.isFile path) : fs'.isFile path := by
  rw [FileSystem.isFile] at hpath
  split at hpath
  · rename_i hfind
    obtain ⟨_, hfind', -⟩ := h.find_file hfind
    rw [FileSystem.isFile, hfind']
  · cases hpath

theorem Grows.locate (h : fs.Grows fs' written) (hlocate : fs.locate path = .ok location) :
    fs'.locate path = .ok location := by
  rw [FileSystem.locate] at hlocate
  split at hlocate
  · rename_i hfind
    obtain ⟨_, hfind', -⟩ := h.find_file hfind
    rw [FileSystem.locate, hfind']
    exact hlocate
  · rename_i hfind
    rw [FileSystem.locate, h.find_directory hfind]
    exact hlocate
  · cases hlocate
  · cases hlocate

/-- What is read from a file that is not written stays the same. -/
theorem Grows.readText {text : String} (h : fs.Grows fs' written)
    (hread : fs.readText path = .ok text)
    (hunwritten : ∀ location contents,
      fs'.find path = .ok (.file location contents) → ¬ written location) :
    fs'.readText path = .ok text := by
  have hread' : fs'.read path = fs.read path := by
    rw [read, read]
    rcases hfind : fs.find path with fault | found
    · rw [FileSystem.readText, read, hfind] at hread
      cases hread
    · cases found with
      | file location contents =>
        obtain ⟨contents', hfind', hsame⟩ := h.find_file hfind
        rw [hfind', hsame (hunwritten location contents' hfind')]
      | directory =>
        rw [FileSystem.readText, read, hfind] at hread
        cases hread
      | vacant =>
        rw [FileSystem.readText, read, hfind] at hread
        cases hread
  rw [FileSystem.readText, hread']
  exact hread

end FileSystem

open Pass Discovery

variable {config : Config} {fs fs' : FileSystem} {base : Location} {files : List RouteModule}
  {scanner : Scanner} {written : Location → Prop}

theorem baseLocation_grows (h : fs.Grows fs' written) (hbase : config.baseLocation fs = .ok base) :
    config.baseLocation fs' = .ok base := by
  rw [Config.baseLocation] at hbase ⊢
  rcases hpath : config.basePath with fault | path
  · rw [hpath] at hbase
    cases hbase
  · rw [hpath] at hbase
    dsimp only [bind, Except.bind] at hbase ⊢
    split at hbase
    · cases hbase
    · cases hbase
    · rename_i location hlocate
      split at hbase
      · rename_i hdirectory
        rw [h.locate hlocate]
        dsimp only
        rw [if_pos (h.isDirectory hdirectory)]
        exact hbase
      · cases hbase

/-- Files that are read alike have the same exports, and the same is logged about them. -/
theorem bindingsOfAll_congr {bindings : List Bindings}
    (hread : ∀ file ∈ files, ∀ text,
      fs.readText file.absolute = .ok text → fs'.readText file.absolute = .ok text)
    (hok : (bindingsOfAll scanner fs files).outcome = .ok bindings) :
    bindingsOfAll scanner fs' files = bindingsOfAll scanner fs files := by
  induction files generalizing bindings with
  | nil => rfl
  | cons file rest ih =>
    obtain ⟨hfile, hrest⟩ := List.forall_mem_cons.1 hread
    rw [bindingsOfAll] at hok
    obtain ⟨first, hfirst, hothers⟩ := outcome_bind_eq_ok_iff.1 hok
    obtain ⟨others, hothers, -⟩ := outcome_bind_eq_ok_iff.1 hothers
    have hsame : bindingsOf scanner fs' file = bindingsOf scanner fs file := by
      rw [bindingsOf] at hfirst
      obtain ⟨source, hsource, -⟩ := outcome_bind_eq_ok_iff.1 hfirst
      rcases htext : fs.readText file.absolute with fault | text
      · rw [htext] at hsource
        cases hsource
      · rw [bindingsOf, bindingsOf, htext, hfile text htext]
    rw [bindingsOfAll, bindingsOfAll, hsame, ih hrest hothers]

section Again

variable (hwf : fs.WellFormed) (hwf' : fs'.WellFormed) (h : fs.Grows fs' written)
  (hbase : config.baseLocation fs = .ok base)
  (hmade : fs.TakesMade fs' config.hidden base)
  (hunwritten : ∀ names n location contents, FileSystem.Shows config.hidden names →
    fs'.Leads [] .name (base ++ names) n (.file location contents) → ¬ written location)
include hwf hbase hunwritten

/-- A file that is selected is not written, at whatever location its path leads to now. -/
theorem unwritten_of_selects {includes ignores : GlobSet} {names : List FileName}
    {relative : String} {absolute : Path}
    (hwalk : (fs.walk config.hidden base).outcome = .ok ())
    (hselects : Selects config fs base includes ignores names relative absolute)
    {location : Location} {contents : List UInt8}
    (hfind : fs'.find absolute = .ok (.file location contents)) : ¬ written location := by
  obtain ⟨-, hproper⟩ := isProper_of_selects hwf hbase hwalk includes ignores hselects
  obtain ⟨n, hleads⟩ := FileSystem.leads_of_find hfind
  rw [hselects.absolute_eq] at hleads
  have hending := hleads.ending_eq rfl
  rw [hending, FileSystem.names_path hproper, FileSystem.start,
    if_pos (FileSystem.isAbsolute_path _)] at hleads
  exact hunwritten names n location contents hselects.shows hleads

include hwf' h hmade

/-- Discovery finds what it found before. -/
theorem findRoutes_grows (hok : (findRoutes config fs).outcome = .ok files) :
    (findRoutes config fs').outcome = .ok files ∧
      ∀ file ∈ files, ∀ location contents,
        fs'.find file.absolute = .ok (.file location contents) → ¬ written location := by
  have hdirectory := Config.hasDirectory_of_baseLocation hwf hbase
  obtain ⟨hwalk, includes, ignores, hincludes, hignores⟩ := walk_ok_of_findRoutes_ok hbase hok
  have hwalk' := FileSystem.walk_ok_of_grows hwf hwf' hdirectory hwalk h hmade
  constructor
  · rw [← hok]
    apply outcome_findRoutes_eq_of_selects_iff hbase hincludes hignores hwalk hwf hwf'
      (baseLocation_grows h hbase) hwalk'
    intro relative absolute
    apply exists_congr
    intro names
    have hfile (hshown : ∀ name ∈ names,
        name ≠ FileSystem.upName ∧ (config.hidden ∨ ¬ name.isHidden)) :=
      have hshows : FileSystem.Shows config.hidden names := fun name hname =>
        ⟨(hshown name hname).1, by simpa using (hshown name hname).2⟩
      FileSystem.leads_iff_of_grows hwf hwf' hdirectory hwalk h hwalk' hunwritten hshows
    constructor
    · intro hselects
      exact { hselects with file := (hfile hselects.shown).1 hselects.file }
    · intro hselects
      exact { hselects with file := (hfile hselects.shown).2 hselects.file }
  · intro file hmem location contents hfind
    have hselected := (mem_findRoutes_iff hbase hincludes hignores hwalk hok).1
      ⟨file, hmem, rfl, rfl⟩
    obtain ⟨names, hselects⟩ := (mem_selected_iff hwf hbase hwalk _ _ _ _).1 hselected
    exact unwritten_of_selects hwf hbase hunwritten hwalk hselects hfind

/-- A pass generates what it generated before, and depends on the same. -/
theorem generateTable_grows {available : Nat} {text : String}
    (hok : (generateTable scanner available config fs).outcome = .ok text) :
    (generateTable scanner available config fs').outcome = .ok text ∧
      (generateTable scanner available config fs').dependencies =
        (generateTable scanner available config fs).dependencies := by
  rw [generateTable] at hok
  obtain ⟨files, hfiles, hrest⟩ := outcome_bind_eq_ok_iff.1 hok
  obtain ⟨hfiles', hunread⟩ := findRoutes_grows hwf hwf' h hbase hmade hunwritten hfiles
  obtain ⟨bindings, hbindings⟩ :
      ∃ bindings, (bindingsOfAll scanner fs files).outcome = .ok bindings := by
    obtain ⟨-, -, hrest⟩ := outcome_bind_eq_ok_iff.1 hrest
    dsimp only at hrest
    split at hrest
    · obtain ⟨-, -, hrest⟩ := outcome_bind_eq_ok_iff.1 hrest
      obtain ⟨bindings, hbindings, -⟩ := outcome_bind_eq_ok_iff.1 hrest
      exact ⟨bindings, hbindings⟩
    · obtain ⟨bindings, hbindings, -⟩ := outcome_bind_eq_ok_iff.1 hrest
      exact ⟨bindings, hbindings⟩
  have hsame : bindingsOfAll scanner fs' files = bindingsOfAll scanner fs files :=
    bindingsOfAll_congr
      (fun file hmem text hread => h.readText hread (hunread file hmem)) hbindings
  obtain ⟨hdirectories, hnone⟩ := dependencies_findRoutes hbase
  obtain ⟨hdirectories', hnone'⟩ := dependencies_findRoutes (baseLocation_grows h hbase)
  constructor
  · rw [generateTable, outcome_bind_of_ok hfiles', hsame]
    exact hrest
  · rw [dependencies, dependencies, generateTable, generateTable, directories_bind_of_ok hfiles,
      directories_bind_of_ok hfiles', files_bind_of_ok hfiles, files_bind_of_ok hfiles',
      hdirectories, hdirectories', hnone, hnone', hsame]

end Again

end RouteTable
