import RouteTable.Proofs.Files.Walking
import RouteTable.Proofs.Pass.Generation
import RouteTable.Proofs.Sorting
import RouteTable.Proofs.Text.Utf8
import RouteTable.Proofs.Traversal

/-!
What discovery finds: the files that are selected, each of them once, in the order of their relative
paths. The order that the walk finds them in makes no difference.
-/

namespace RouteTable

open Reporting Text

namespace FileName

theorem ofString_of_text? {name : FileName} {text : String} (h : name.text? = some text) :
    ofString text = name := by
  obtain ⟨chars, hchars, rfl⟩ := Option.map_eq_some_iff.1 h
  rw [ofString, String.toList_ofList]
  exact Utf8.encode_of_decode? hchars

theorem slash_notMem_toList {text : String} (h : Path.slash ∉ ofString text) :
    '/' ∉ text.toList := by
  intro hmem
  have hslash : Path.slash ∈ String.utf8EncodeChar '/' := by decide
  exact h (List.mem_flatMap.2 ⟨'/', hmem, hslash⟩)

theorem text?_of_ascii {name : FileName} (h : name.all (· ≤ 0x7F)) :
    name.text? = some (String.ofList (name.map fun b => Char.ofNat b.toNat)) := by
  rw [text?, Utf8.decode?_of_ascii h, Option.map_some]

theorem isHidden_of_ascii {name : FileName} (h : name.all (· ≤ 0x7F)) :
    name.isHidden = ((name.map fun b => Char.ofNat b.toNat).head? == some '.') := by
  rw [isHidden, Utf8.decode?_of_ascii h]
  generalize name.map (fun b => Char.ofNat b.toNat) = text
  rcases text with _ | ⟨c, rest⟩
  · rfl
  · by_cases hc : c = '.'
    · subst hc
      rfl
    · rw [List.head?_cons, beq_false_of_ne fun heq => hc (Option.some.inj heq)]
      split
      · rename_i heq
        cases heq
        exact absurd rfl hc
      · rfl

end FileName

namespace Discovery

theorem relative?_of_ascii {name : FileName} (h : name.all (· ≤ 0x7F)) :
    relative? [name] = some (String.ofList (name.map fun b => Char.ofNat b.toNat)) := by
  rw [relative?, List.mapM_cons, FileName.text?_of_ascii h]
  exact congrArg some String.intercalate_singleton

theorem map_ofString_of_mapM {names : List FileName} {texts : List String}
    (h : names.mapM FileName.text? = some texts) : texts.map FileName.ofString = names := by
  induction names generalizing texts with
  | nil =>
    cases h
    rfl
  | cons name rest ih =>
    rw [List.mapM_cons] at h
    obtain ⟨text, htext, h⟩ := Option.bind_eq_some_iff.1 h
    obtain ⟨more, hmore, h⟩ := Option.bind_eq_some_iff.1 h
    cases h
    rw [List.map_cons, FileName.ofString_of_text? htext, ih hmore]

/-- The texts of the names are what is between the slashes of a relative path. -/
theorem splitOn_relative {names : List FileName} {relative : String}
    (h : relative? names = some relative) (hne : names ≠ [])
    (hslash : ∀ name ∈ names, Path.slash ∉ name) :
    ∃ texts : List String, texts.map FileName.ofString = names ∧
      relative.toList.splitOn '/' = texts.map String.toList := by
  obtain ⟨texts, htexts, rfl⟩ := Option.map_eq_some_iff.1 h
  have hnames := map_ofString_of_mapM htexts
  refine ⟨texts, hnames, ?_⟩
  rw [String.toList_intercalate]
  apply List.splitOn_intercalate
  · intro chars hchars
    obtain ⟨text, htext, rfl⟩ := List.mem_map.1 hchars
    apply FileName.slash_notMem_toList
    exact hslash _ (hnames ▸ List.mem_map_of_mem htext)
  · intro hnil
    rw [List.map_eq_nil_iff.1 hnil] at hnames
    exact hne hnames.symm

/-- Names are told apart by their relative paths. -/
theorem eq_of_relative? {names names' : List FileName} {relative : String}
    (h : relative? names = some relative) (h' : relative? names' = some relative)
    (hne : names ≠ []) (hne' : names' ≠ []) (hslash : ∀ name ∈ names, Path.slash ∉ name)
    (hslash' : ∀ name ∈ names', Path.slash ∉ name) : names = names' := by
  obtain ⟨texts, rfl, hsplit⟩ := splitOn_relative h hne hslash
  obtain ⟨texts', rfl, hsplit'⟩ := splitOn_relative h' hne' hslash'
  have hchars : texts.map String.toList = texts'.map String.toList := hsplit.symm.trans hsplit'
  have htexts : texts = texts' :=
    List.map_injective_iff.2 (fun _ _ heq => String.toList_injective heq) hchars
  rw [htexts]

/-- What discovery makes of a file with some names, if it is a route file. -/
def selection (includes ignores : GlobSet) (base : Location) (names : List FileName) :
    Option (String × Path) :=
  (relative? names).bind fun relative =>
    if includes.isMatch relative ∧ ignores.isMatch relative = false then
      some (relative, Location.path (base ++ names))
    else none

section Selection

variable {includes ignores : GlobSet} {base : Location} {names : List FileName}

theorem isSome_firstMatch? (set : GlobSet) (path : String) :
    (set.firstMatch? path).isSome = set.isMatch path := by
  rw [GlobSet.firstMatch?, Option.isSome_map, GlobSet.isMatch, Bool.eq_iff_iff, List.find?_isSome,
    List.any_eq_true]

theorem outcome_select :
    (select includes ignores base names).outcome = .ok (selection includes ignores base names) := by
  rw [select, selection]
  rcases relative? names with _ | relative
  · rfl
  · have hignored := isSome_firstMatch? ignores relative
    dsimp only [Option.bind_some]
    by_cases hmatch : includes.isMatch relative
    · rw [if_pos hmatch]
      rcases hfirst : ignores.firstMatch? relative with _ | pattern
      · rw [hfirst] at hignored
        rw [if_pos ⟨hmatch, hignored.symm⟩]
        rfl
      · rw [hfirst] at hignored
        rw [← hignored, if_neg (by simp)]
        rfl
    · rw [if_neg hmatch, if_neg fun h => hmatch h.1]
      rfl

/-- Of the files of a walk, those are route files that discovery selects. -/
theorem outcome_selectAll (reports : List (List FileName)) :
    (selectAll includes ignores base reports).outcome =
      .ok (reports.filterMap (selection includes ignores base)) := by
  induction reports with
  | nil => rfl
  | cons names rest ih =>
    rw [selectAll, Reporting.outcome_bind_of_ok outcome_select, Reporting.outcome_bind_of_ok ih,
      List.filterMap_cons]
    cases selection includes ignores base names with
    | none => rfl
    | some found => rfl

theorem selection_eq_some_iff {relative : String} {absolute : Path} :
    selection includes ignores base names = some (relative, absolute) ↔
      relative? names = some relative ∧ absolute = Location.path (base ++ names) ∧
        includes.isMatch relative ∧ ignores.isMatch relative = false := by
  rw [selection, Option.bind_eq_some_iff]
  constructor
  · rintro ⟨relative', hrelative, h⟩
    split at h
    · rename_i hmatch
      cases h
      exact ⟨hrelative, rfl, hmatch⟩
    · cases h
  · rintro ⟨hrelative, rfl, hmatch⟩
    exact ⟨relative, hrelative, if_pos hmatch⟩

end Selection

/-- Numbering keeps the files. -/
theorem map_number (index : Nat) (found : List (String × Path)) :
    (number index found).map (fun file => (file.relative, file.absolute)) = found := by
  induction found generalizing index with
  | nil => rfl
  | cons pair rest ih =>
    obtain ⟨relative, path⟩ := pair
    rw [number, List.map_cons, ih]

/-- Whether names lead from the base to a file that is to be discovered with these paths. -/
structure Selects (config : Config) (fs : FileSystem) (base : Location) (includes ignores : GlobSet)
    (names : List FileName) (relative : String) (absolute : Path) : Prop where
  /-- The names go down, and no name is hidden unless hidden ones are looked at. -/
  shown : ∀ name ∈ names, name ≠ FileSystem.upName ∧ (config.hidden ∨ ¬ name.isHidden)
  /-- There is a file behind any number of links. -/
  file : ∃ n location contents, fs.Leads [] .name (base ++ names) n (.file location contents)
  /-- The names are texts. -/
  relative_eq : relative? names = some relative
  absolute_eq : absolute = Location.path (base ++ names)
  included : ∃ glob ∈ includes.globs, glob.isMatch relative
  spared : ∀ glob ∈ ignores.globs, ¬ glob.isMatch relative

/-- Names that are to be discovered are those of something that a walk looks at. -/
theorem Selects.shows {config : Config} {fs : FileSystem} {base : Location}
    {includes ignores : GlobSet} {names : List FileName} {relative : String} {absolute : Path}
    (h : Selects config fs base includes ignores names relative absolute) :
    ∀ name ∈ names, name ≠ FileSystem.upName ∧ (config.hidden || !name.isHidden) := by
  intro name hname
  exact ⟨(h.shown name hname).1, by simpa using (h.shown name hname).2⟩

end Discovery

namespace Config

theorem hasDirectory_of_baseLocation {config : Config} {fs : FileSystem} {base : Location}
    (hwf : fs.WellFormed) (h : config.baseLocation fs = .ok base) : fs.HasDirectory base := by
  rw [baseLocation] at h
  rcases hpath : config.basePath with fault | path
  · rw [hpath] at h
    cases h
  · rw [hpath] at h
    dsimp only [bind, Except.bind] at h
    split at h
    · cases h
    · cases h
    · rename_i location hlocate
      split at h
      · rename_i hdirectory
        cases h
        exact hwf.hasDirectory_of_locate hlocate hdirectory
      · cases h

end Config

open Discovery

section Discovered

variable {config : Config} {fs : FileSystem} {base : Location} {includes ignores : GlobSet}

/-- What comes of discovery in a base directory, with globs that can be compiled. -/
theorem outcome_findRoutes (hbase : config.baseLocation fs = .ok base)
    (hincludes : GlobSet.compile config.patterns = .ok includes)
    (hignores : GlobSet.compile config.ignored = .ok ignores) :
    (findRoutes config fs).outcome =
      ((fs.walk config.hidden base).outcome.mapError PassError.walk).map fun _ =>
        number 0 (sortByKey
          ((fs.walk config.hidden base).reports.filterMap (selection includes ignores base))) := by
  have hstart : (.ofExcept (config.baseLocation fs) : Pass Location).outcome = .ok base := hbase
  have hpatterns : (.ofExcept ((GlobSet.compile config.patterns).mapError .glob) :
      Pass GlobSet).outcome = .ok includes := by
    rw [hincludes]
    rfl
  have hignored : (.ofExcept ((GlobSet.compile config.ignored).mapError .glob) :
      Pass GlobSet).outcome = .ok ignores := by
    rw [hignores]
    rfl
  have hselected : (selectAll includes ignores base (fs.walk config.hidden base).reports).outcome =
      .ok ((fs.walk config.hidden base).reports.filterMap (selection includes ignores base)) :=
    outcome_selectAll _
  rw [findRoutes, outcome_bind_of_ok hstart, outcome_bind_of_ok (a := ()) rfl,
    outcome_bind_of_ok (a := ()) rfl, outcome_bind_of_ok hpatterns, outcome_bind_of_ok hignored,
    outcome_bind_of_ok hselected]
  rcases (fs.walk config.hidden base).outcome with fault | _
  · rfl
  · rfl

section Found

variable (hwf : fs.WellFormed) (hbase : config.baseLocation fs = .ok base)
  (hwalk : (fs.walk config.hidden base).outcome = .ok ()) (includes ignores : GlobSet)
include hwf hbase hwalk

/-- The files that discovery selects from a walk are those that are to be discovered. -/
theorem mem_selected_iff (relative : String) (absolute : Path) :
    (relative, absolute) ∈
        (fs.walk config.hidden base).reports.filterMap (selection includes ignores base) ↔
      ∃ names, Selects config fs base includes ignores names relative absolute := by
  have hdirectory := Config.hasDirectory_of_baseLocation hwf hbase
  have hreports (names : List FileName) : names ∈ (fs.walk config.hidden base).reports ↔ _ :=
    FileSystem.mem_reports_walk hwf hdirectory hwalk
  rw [List.mem_filterMap]
  constructor
  · rintro ⟨names, hmem, hselected⟩
    obtain ⟨hshown, hfile⟩ := (hreports names).1 hmem
    obtain ⟨hrelative, habsolute, hincluded, hignored⟩ := selection_eq_some_iff.1 hselected
    refine ⟨names, ?_, hfile, hrelative, habsolute, List.any_eq_true.1 hincluded, ?_⟩
    · intro name hname
      exact ⟨(hshown name hname).1, by simpa using (hshown name hname).2⟩
    · exact List.any_eq_false.1 hignored
  · rintro ⟨names, hselects⟩
    refine ⟨names, (hreports names).2 ⟨hselects.shows, hselects.file⟩, selection_eq_some_iff.2 ?_⟩
    exact ⟨hselects.relative_eq, hselects.absolute_eq, List.any_eq_true.2 hselects.included,
      List.any_eq_false.2 hselects.spared⟩

/-- A file that is to be discovered is below the base, and the names that lead to it from the root
are proper. -/
theorem isProper_of_selects {names : List FileName} {relative : String} {absolute : Path}
    (h : Selects config fs base includes ignores names relative absolute) :
    names ≠ [] ∧ ∀ name ∈ base ++ names, name.IsProper := by
  have hdirectory := Config.hasDirectory_of_baseLocation hwf hbase
  have hreported : names ∈ (fs.walk config.hidden base).reports :=
    (FileSystem.mem_reports_walk hwf hdirectory hwalk).2 ⟨h.shows, h.file⟩
  exact ⟨FileSystem.ne_nil_of_mem_reports_walk hreported,
    FileSystem.isProper_of_mem_reports_walk hwf hdirectory hwalk hreported⟩

/-- What tells the files of a walk apart tells those apart that discovery selects from them. -/
theorem nodup_map_selected {κ : Type} (key : String × Path → κ)
    (hkey : ∀ names names' file file',
      (∀ name ∈ base ++ names, name.IsProper) → (∀ name ∈ base ++ names', name.IsProper) →
      names ≠ [] → names' ≠ [] → selection includes ignores base names = some file →
      selection includes ignores base names' = some file' → key file = key file' →
      names = names') :
    (((fs.walk config.hidden base).reports.filterMap
      (selection includes ignores base)).map key).Nodup := by
  have hdirectory := Config.hasDirectory_of_baseLocation hwf hbase
  have hproper {names : List FileName} (hmem : names ∈ (fs.walk config.hidden base).reports) :
      ∀ name ∈ base ++ names, name.IsProper :=
    FileSystem.isProper_of_mem_reports_walk hwf hdirectory hwalk hmem
  have hnodup := FileSystem.nodup_reports_walk hwf hdirectory hwalk
  apply List.pairwise_map.2
  apply List.pairwise_filterMap.2
  refine hnodup.imp_of_mem ?_
  intro names names' hmem hmem' hne file hselected file' hselected' hsame
  exact hne (hkey names names' file file' (hproper hmem) (hproper hmem')
    (FileSystem.ne_nil_of_mem_reports_walk hmem) (FileSystem.ne_nil_of_mem_reports_walk hmem')
    hselected hselected' hsame)

/-- No two files that discovery selects have the same relative path. -/
theorem nodup_relative_selected :
    (((fs.walk config.hidden base).reports.filterMap
      (selection includes ignores base)).map Prod.fst).Nodup := by
  apply nodup_map_selected hwf hbase hwalk
  intro names names' file file' hproper hproper' hne hne' hselected hselected' hsame
  obtain ⟨hrelative, -⟩ := selection_eq_some_iff.1 hselected
  obtain ⟨hrelative', -⟩ := selection_eq_some_iff.1 hselected'
  rw [← hsame] at hrelative'
  exact eq_of_relative? hrelative hrelative' hne hne'
    (fun name hname => (hproper name (List.mem_append_right base hname)).slash_notMem)
    fun name hname => (hproper' name (List.mem_append_right base hname)).slash_notMem

/-- Nor the same absolute path. -/
theorem nodup_absolute_selected :
    (((fs.walk config.hidden base).reports.filterMap
      (selection includes ignores base)).map Prod.snd).Nodup := by
  apply nodup_map_selected hwf hbase hwalk
  intro names names' file file' hproper hproper' _ _ hselected hselected' hsame
  obtain ⟨-, habsolute, -⟩ := selection_eq_some_iff.1 hselected
  obtain ⟨-, habsolute', -⟩ := selection_eq_some_iff.1 hselected'
  have hnames := congrArg Path.names (habsolute.symm.trans (hsame.trans habsolute'))
  rw [FileSystem.names_path hproper, FileSystem.names_path hproper'] at hnames
  exact List.append_cancel_left hnames

/-- What discovery finds is in the order of the relative paths, each file once. -/
theorem pairwise_number_selected :
    let files := number 0 (sortByKey
      ((fs.walk config.hidden base).reports.filterMap (selection includes ignores base)))
    (files.map RouteModule.absolute).Nodup ∧
      files.Pairwise fun a b => a.relative < b.relative := by
  constructor
  · have hnodup := nodup_absolute_selected hwf hbase hwalk includes ignores
    rw [← ((perm_sortByKey _).map Prod.snd).nodup_iff, ← map_number 0 (sortByKey _),
      List.map_map] at hnodup
    exact hnodup
  · have hnodup := nodup_relative_selected hwf hbase hwalk includes ignores
    have hsorted := pairwise_lt_sortByKey hnodup
    rw [← map_number 0 (sortByKey _), List.pairwise_map] at hsorted
    exact hsorted

end Found

section Listed

variable {files : List RouteModule} {relative : String} {absolute : Path}
  (hbase : config.baseLocation fs = .ok base)
  (hincludes : GlobSet.compile config.patterns = .ok includes)
  (hignores : GlobSet.compile config.ignored = .ok ignores)
  (hwalk : (fs.walk config.hidden base).outcome = .ok ())
include hbase hincludes hignores hwalk

theorem outcome_findRoutes_of_walk_ok :
    (findRoutes config fs).outcome = .ok (number 0 (sortByKey
      ((fs.walk config.hidden base).reports.filterMap (selection includes ignores base)))) := by
  rw [outcome_findRoutes hbase hincludes hignores, hwalk]
  rfl

/-- Discovery finds what it selects from the files of the walk. -/
theorem mem_findRoutes_iff (hfiles : (findRoutes config fs).outcome = .ok files) :
    (∃ file ∈ files, file.relative = relative ∧ file.absolute = absolute) ↔
      (relative, absolute) ∈
        (fs.walk config.hidden base).reports.filterMap (selection includes ignores base) := by
  cases hfiles.symm.trans (outcome_findRoutes_of_walk_ok hbase hincludes hignores hwalk)
  rw [← (perm_sortByKey _).mem_iff, ← map_number 0 (sortByKey _), List.mem_map]
  simp only [Prod.mk.injEq, map_number]

/-- A file system with the same files to be discovered makes no difference. -/
theorem outcome_findRoutes_eq_of_selects_iff {fs' : FileSystem} {base' : Location}
    (hwf : fs.WellFormed) (hwf' : fs'.WellFormed) (hbase' : config.baseLocation fs' = .ok base')
    (hwalk' : (fs'.walk config.hidden base').outcome = .ok ())
    (hagree : ∀ relative absolute,
      (∃ names, Selects config fs' base' includes ignores names relative absolute) ↔
        ∃ names, Selects config fs base includes ignores names relative absolute) :
    (findRoutes config fs').outcome = (findRoutes config fs).outcome := by
  have hnodup := nodup_relative_selected hwf hbase hwalk includes ignores
  have hnodup' := nodup_relative_selected hwf' hbase' hwalk' includes ignores
  have hsame : ∀ file, file ∈ (fs'.walk config.hidden base').reports.filterMap
      (selection includes ignores base') ↔ file ∈ (fs.walk config.hidden base).reports.filterMap
        (selection includes ignores base) := by
    rintro ⟨relative, absolute⟩
    rw [mem_selected_iff hwf' hbase' hwalk', mem_selected_iff hwf hbase hwalk]
    exact hagree relative absolute
  rw [outcome_findRoutes_of_walk_ok hbase' hincludes hignores hwalk',
    outcome_findRoutes_of_walk_ok hbase hincludes hignores hwalk,
    sortByKey_eq_of_mem_iff hnodup' hnodup hsame]

end Listed

/-- Discovery finds the files that are to be discovered, in the order of the code points of their
relative paths, and numbers them by their places. What the walk finds may come in any order, and
another file system with the same files to be discovered makes no difference. -/
theorem findRoutes_eq_selected (hwf : fs.WellFormed) (hbase : config.baseLocation fs = .ok base)
    (hincludes : GlobSet.compile config.patterns = .ok includes)
    (hignores : GlobSet.compile config.ignored = .ok ignores)
    (hwalk : (fs.walk config.hidden base).outcome = .ok ()) :
    ∃ files, (findRoutes config fs).outcome = .ok files ∧
      files.Pairwise (fun a b => a.relative < b.relative) ∧
      files.map RouteModule.index = List.range files.length ∧
      (∀ relative absolute,
        (∃ file ∈ files, file.relative = relative ∧ file.absolute = absolute) ↔
          ∃ names, Selects config fs base includes ignores names relative absolute) ∧
      (∀ yielded, yielded.Perm (fs.walk config.hidden base).reports →
        ∃ found, (selectAll includes ignores base yielded).outcome = .ok found ∧
          number 0 (found.mergeSort fun a b => a.1 ≤ b.1) = files) ∧
      ∀ fs' base', fs'.WellFormed → config.baseLocation fs' = .ok base' →
        (fs'.walk config.hidden base').outcome = .ok () →
        (∀ relative absolute,
          (∃ names, Selects config fs' base' includes ignores names relative absolute) ↔
            ∃ names, Selects config fs base includes ignores names relative absolute) →
        (findRoutes config fs').outcome = .ok files := by
  have houtcome := outcome_findRoutes_of_walk_ok hbase hincludes hignores hwalk
  have hnodup := nodup_relative_selected hwf hbase hwalk includes ignores
  have hordered := (pairwise_number_selected hwf hbase hwalk includes ignores).2
  refine ⟨_, houtcome, hordered, map_index_findRoutes houtcome, ?_, ?_, ?_⟩
  · intro relative absolute
    rw [mem_findRoutes_iff hbase hincludes hignores hwalk houtcome,
      mem_selected_iff hwf hbase hwalk]
  · intro yielded hperm
    have hselected := hperm.filterMap (selection includes ignores base)
    have hnodup' := (hselected.map Prod.fst).nodup_iff.2 hnodup
    exact ⟨_, outcome_selectAll yielded,
      congrArg (number 0) (sortByKey_eq_of_mem_iff hnodup' hnodup fun _ => hselected.mem_iff)⟩
  · intro fs' base' hwf' hbase' hwalk' hagree
    rw [← houtcome]
    exact outcome_findRoutes_eq_of_selects_iff hbase hincludes hignores hwalk hwf hwf' hbase' hwalk'
      hagree

end Discovered

/-- The standard globs can be compiled, and select the names of scripts. -/
theorem compile_standard :
    ∃ includes ignores, GlobSet.compile Config.standard.patterns = .ok includes ∧
      GlobSet.compile Config.standard.ignored = .ok ignores ∧
      ∀ name ∈ ["a.ts", "b.ts"], includes.isMatch name ∧ ignores.isMatch name = false := by
  obtain ⟨includes, hincludes, hincluded⟩ := exists_ok_of_any
    (by decide +kernel : (GlobSet.compile Config.standard.patterns).toOption.any fun set =>
      ["a.ts", "b.ts"].all set.isMatch)
  obtain ⟨ignores, hignores, hspared⟩ := exists_ok_of_any
    (by decide +kernel : (GlobSet.compile Config.standard.ignored).toOption.any fun set =>
      ["a.ts", "b.ts"].all (!set.isMatch ·))
  refine ⟨includes, ignores, hincludes, hignores, fun name hmem => ⟨?_, ?_⟩⟩
  · exact List.all_eq_true.1 hincluded name hmem
  · have hnone := List.all_eq_true.1 hspared name hmem
    rwa [Bool.not_eq_true'] at hnone

section LinkedFiles

def rootConfig : Config :=
  { Config.standard with root := .ofString "/", base := "." }

theorem baseLocation_rootConfig (fs : FileSystem) : rootConfig.baseLocation fs = .ok [] := by
  have hbase : rootConfig.base.startsWith "file:" = false := by decide
  have hpath : rootConfig.root.join (.ofString rootConfig.base) = .ofString "/." := by
    decide
  have hfind {path : Path} (h : path = .ofString "/." ∨ path = .ofString "/") :
      fs.find path = .ok (.directory [] (fs.entriesAt [])) := by
    have hnames : path.names = [] := by
      rcases h with rfl | rfl
      · decide
      · decide
    have hstart : fs.start path = [] := by
      rcases h with rfl | rfl
      · rfl
      · rfl
    have husable : path.bytes.contains 0 = false ∧ path.isEmpty = false ∧
        path.bytes.length < FileSystem.maximalPath := by
      rcases h with rfl | rfl
      · decide
      · decide
    refine FileSystem.findFor_eq_ok_iff.2 ⟨husable, ?_⟩
    rw [hnames, hstart, FileSystem.follow_nil]
  have hdirectory : fs.isDirectory (Location.path []) := by
    rw [FileSystem.isDirectory, hfind (.inr (by decide))]
  rw [Config.baseLocation, Config.basePath, hbase, hpath]
  simp [bind, Except.bind, FileSystem.locate, hfind, hdirectory]

/-- A directory with a file, a link to it, a hidden file and a file that is not to be discovered. -/
def linkedFiles : FileSystem where
  root := .directory
    [(.ofString "b.ts", .link (.ofString "a.ts")), (.ofString "a.ts", .file []),
      (.ofString ".h.ts", .file []), (.ofString "_c.ts", .file [])]
  workingDirectory := []

theorem wellFormed_linkedFiles : linkedFiles.WellFormed :=
  FileSystem.wellFormed_of_flat (by decide) (by decide) (by decide)

theorem find_linkedFiles : (linkedFiles.walkSetting false []).find [.ofString "b.ts"] =
    .ok (.file [.ofString "a.ts"] []) := by
  have hfind (location : Location) := wellFormed_linkedFiles.tree.find?_sorted location
  have htarget : (Path.ofString "a.ts").names = [.ofString "a.ts"] := by decide
  have hending : (Path.ofString "a.ts").ending = .name := by decide
  have hshort : ¬ (linkedFiles.walkSetting false []).isTooLong [.ofString "b.ts"] := by decide
  rw [Walk.Setting.find, if_neg hshort]
  apply FileSystem.follow_eq_ok_iff.2
  have hlink : linkedFiles.sorted.root.find? [.ofString "b.ts"] =
      some (.link (.ofString "a.ts")) := hfind _
  refine ⟨1, by decide, .link (by decide) (by decide) hlink ?_⟩
  rw [htarget, hending]
  exact .file (by decide) (by decide) (hfind [.ofString "a.ts"])

theorem walk_linkedFiles : (linkedFiles.walk false []).outcome = .ok () := by
  have hroot := wellFormed_linkedFiles.hasDirectory_root
  apply FileSystem.walk_ok_of_files wellFormed_linkedFiles hroot
  intro name node hnode
  have hmem := (wellFormed_linkedFiles.mem_entriesAt hroot).2 hnode
  simp only [FileSystem.entriesAt, linkedFiles, FileNode.find?, List.mem_cons, List.not_mem_nil,
    or_false, Prod.mk.injEq] at hmem
  rcases hmem with ⟨rfl, rfl⟩ | ⟨rfl, rfl⟩ | ⟨rfl, rfl⟩ | ⟨rfl, rfl⟩
  · exact .inr ⟨_, _, _, rfl, find_linkedFiles⟩
  · exact .inl ⟨_, rfl⟩
  · exact .inl ⟨_, rfl⟩
  · exact .inl ⟨_, rfl⟩

/-- The link is found as the file that it leads to. -/
theorem findRoutes_eq_selected_linkedFiles :
    ∃ files, (findRoutes rootConfig linkedFiles).outcome = .ok files ∧
      files.Pairwise (fun a b => a.relative < b.relative) ∧
      ∃ file ∈ files, file.relative = "b.ts" ∧ file.absolute = .ofString "/b.ts" := by
  obtain ⟨includes, hincludes, hincluded⟩ := exists_ok_of_any
    (by decide +kernel : (GlobSet.compile rootConfig.patterns).toOption.any (·.isMatch "b.ts"))
  obtain ⟨ignores, hignores, hspared⟩ := exists_ok_of_any
    (by decide +kernel : (GlobSet.compile rootConfig.ignored).toOption.any (!·.isMatch "b.ts"))
  rw [Bool.not_eq_true'] at hspared
  obtain ⟨files, hfiles, hsorted, -, hselected, -⟩ := findRoutes_eq_selected wellFormed_linkedFiles
    (baseLocation_rootConfig linkedFiles) hincludes hignores walk_linkedFiles
  obtain ⟨n, hleads⟩ := Walk.Setting.leads_of_find find_linkedFiles
  obtain ⟨m, hleads⟩ := wellFormed_linkedFiles.leads_sorted_file_iff.1 ⟨n, hleads⟩
  refine ⟨files, hfiles, hsorted, (hselected _ _).2 ⟨[.ofString "b.ts"], ?_⟩⟩
  exact {
    shown := by
      rw [List.forall_mem_singleton]
      exact ⟨by decide, .inr (by decide +kernel)⟩
    file := ⟨m, _, _, hleads⟩
    relative_eq := by decide +kernel
    absolute_eq := by decide +kernel
    included := List.any_eq_true.1 hincluded
    spared := List.any_eq_false.1 hspared }

end LinkedFiles

end RouteTable
