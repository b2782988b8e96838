import RouteTable.Proofs.Files.Hidden
import RouteTable.Proofs.Pass.Discovery

/-!
What hidden entries do to discovery where they are not to be looked at: nothing, as long as every
hidden link can be followed and leads out of the directories that it is in.
-/

namespace RouteTable

open Reporting

section Hidden

variable {config : Config} {fs fs' : FileSystem} {base : Location} {files : List RouteModule}

/-- Where discovery ends well, its globs can be compiled and its walk has ended well. -/
theorem walk_ok_of_findRoutes_ok (hbase : config.baseLocation fs = .ok base)
    (h : (findRoutes config fs).outcome = .ok files) :
    (fs.walk config.hidden base).outcome = .ok () ∧
      ∃ includes ignores, GlobSet.compile config.patterns = .ok includes ∧
        GlobSet.compile config.ignored = .ok ignores := by
  have hok {ε α : Type} {outcome : Except ε α} {errorOf : ε → PassError} {a : α}
      (h : (.ofExcept (outcome.mapError errorOf) : Pass α).outcome = .ok a) :
      outcome = .ok a := by
    cases outcome with
    | error e => cases h
    | ok a' =>
      cases h
      rfl
  simp only [findRoutes, outcome_bind_eq_ok_iff] at h
  obtain ⟨base', hbase', _, -, _, -, includes, hincludes, ignores, hignores, _, -, _, hwalk, -⟩ := h
  cases hbase.symm.trans hbase'
  exact ⟨hok hwalk, includes, ignores, hok hincludes, hok hignores⟩

/-- A file that discovery finds is one that is to be discovered, below the base, with proper names
that lead to it from the root. -/
theorem exists_selects_of_mem_findRoutes (hwf : fs.WellFormed)
    (hfiles : (findRoutes config fs).outcome = .ok files) {file : RouteModule}
    (hmem : file ∈ files) :
    ∃ base includes ignores names, GlobSet.compile config.ignored = .ok ignores ∧
      Discovery.Selects config fs base includes ignores names file.relative file.absolute ∧
      names ≠ [] ∧ ∀ name ∈ base ++ names, name.IsProper := by
  obtain ⟨base, hbase, -⟩ := outcome_bind_eq_ok_iff.1 hfiles
  obtain ⟨hwalk, includes, ignores, hincludes, hignores⟩ := walk_ok_of_findRoutes_ok hbase hfiles
  have hselected := (mem_findRoutes_iff hbase hincludes hignores hwalk hfiles).1
    ⟨file, hmem, rfl, rfl⟩
  obtain ⟨names, hselects⟩ := (mem_selected_iff hwf hbase hwalk includes ignores _ _).1 hselected
  exact ⟨base, includes, ignores, names, hignores, hselects,
    isProper_of_selects hwf hbase hwalk includes ignores hselects⟩

/-- With hidden entries left out, file systems that differ in hidden entries only have the same
routes, unless one of them has a hidden link, in a directory that the walk goes into, that leads to
nothing or back to a directory that it is in. With such a link there are no routes. -/
theorem findRoutes_sameBesidesHidden (hhidden : config.hidden = false) (hwf : fs.WellFormed)
    (hwf' : fs'.WellFormed) (hbase : config.baseLocation fs = .ok base)
    (hbase' : config.baseLocation fs' = .ok base) (hsame : fs.SameBesidesHidden fs' base)
    (hlinks : fs.SameBehindLinks fs' base) :
    (¬ (fs.walkSetting false base).HidesFault → ¬ (fs'.walkSetting false base).HidesFault →
      findRoutes config fs = findRoutes config fs') ∧
    ∀ files, (findRoutes config fs').outcome = .ok files →
      (¬ (fs.walkSetting false base).HidesFault → (findRoutes config fs).outcome = .ok files) ∧
      ((fs.walkSetting false base).HidesFault →
        ∃ fault, (findRoutes config fs).outcome = .error (.walk fault)) := by
  have hdirectory := Config.hasDirectory_of_baseLocation hwf hbase
  have hdirectory' := Config.hasDirectory_of_baseLocation hwf' hbase'
  have hequal (hfault : ¬ (fs.walkSetting false base).HidesFault)
      (hfault' : ¬ (fs'.walkSetting false base).HidesFault) :
      findRoutes config fs = findRoutes config fs' := by
    have hwalk := FileSystem.walk_eq_of_sameBesidesHidden hwf hwf' hdirectory hdirectory' hsame
      hlinks hfault hfault'
    have hstart : (.ofExcept (.ok base) : Pass Location) = pure base := rfl
    rw [findRoutes, findRoutes, hbase, hbase', hhidden, hstart]
    simp only [Reporting.pure_bind, hwalk]
  refine ⟨hequal, fun files hfiles => ?_⟩
  obtain ⟨hok', includes, ignores, hincludes, hignores⟩ := walk_ok_of_findRoutes_ok hbase' hfiles
  rw [hhidden] at hok'
  have hfault' := FileSystem.not_hidesFault_of_walk_ok hwf' hdirectory' hok'
  refine ⟨fun hfault => hequal hfault hfault' ▸ hfiles, fun hfault => ?_⟩
  rw [outcome_findRoutes hbase hincludes hignores, hhidden]
  rcases hwalk : (fs.walk false base).outcome with fault | _
  · exact ⟨fault, rfl⟩
  · exact absurd hfault (FileSystem.not_hidesFault_of_walk_ok hwf hdirectory hwalk)

end Hidden

section DeadLink

def routeFile : FileSystem where
  root := .directory [(.ofString "a.ts", .file [])]
  workingDirectory := []

/-- The directory of `routeFile` with a hidden link to nothing in it. -/
def besideDeadLink : FileSystem where
  root := .directory
    [(.ofString "a.ts", .file []), (.ofString ".dead", .link (.ofString "nowhere"))]
  workingDirectory := []

theorem wellFormed_routeFile : routeFile.WellFormed :=
  FileSystem.wellFormed_of_flat (by decide) (by decide) (by decide)

theorem wellFormed_besideDeadLink : besideDeadLink.WellFormed :=
  FileSystem.wellFormed_of_flat (by decide) (by decide) (by decide)

theorem find?_besideDeadLink {name : FileName} {rest : Location} {node : FileNode}
    (h : besideDeadLink.root.find? (name :: rest) = some node) :
    rest = [] ∧ (name = .ofString "a.ts" ∧ node = .file [] ∨
      name = .ofString ".dead" ∧ node = .link (.ofString "nowhere")) := by
  obtain ⟨child, hchild, hrest⟩ := Option.bind_eq_some_iff.1 h
  have hmem := (FileEntries.lookup_eq_some_iff (by decide)).1 hchild
  simp only [List.mem_cons, List.not_mem_nil, or_false, Prod.mk.injEq] at hmem
  rcases hmem with ⟨rfl, rfl⟩ | ⟨rfl, rfl⟩
  · rcases rest with _ | ⟨second, rest⟩
    · cases hrest
      exact ⟨rfl, .inl ⟨rfl, rfl⟩⟩
    · cases hrest
  · rcases rest with _ | ⟨second, rest⟩
    · cases hrest
      exact ⟨rfl, .inr ⟨rfl, rfl⟩⟩
    · cases hrest

theorem isHidden_dead : (FileName.ofString ".dead").isHidden :=
  (FileName.isHidden_of_ascii (by decide)).trans (by decide)

theorem isHidden_upName : FileSystem.upName.isHidden :=
  (FileName.isHidden_of_ascii (by decide)).trans (by decide)

/-- The link is hidden, and nothing else is different. -/
theorem sameBesidesHidden_deadLink : besideDeadLink.SameBesidesHidden routeFile [] := by
  intro location hshown
  rcases location with _ | ⟨name, rest⟩
  · rfl
  · have hdead : name ≠ .ofString ".dead" := by
      rintro rfl
      exact hshown ⟨_, rfl, _, List.mem_cons_self, isHidden_dead⟩
    have hchild : besideDeadLink.root.child? name = routeFile.root.child? name := by
      simp only [FileNode.child?, besideDeadLink, routeFile, List.lookup_cons, List.lookup_nil,
        beq_false_of_ne hdead]
    rw [FileSystem.Alike, FileNode.find?, FileNode.find?, hchild]

theorem sameBehindLinks_deadLink : besideDeadLink.SameBehindLinks routeFile [] := by
  intro names hshown seen hseen hhidden
  exfalso
  rcases names with _ | ⟨name, rest⟩
  · cases hseen
  · have hname := hshown name List.mem_cons_self
    cases hseen with
    | here =>
      obtain ⟨inner, heq, hidden, hmem, hisHidden⟩ := hhidden
      obtain rfl : [name] = inner := heq
      exact hname (List.mem_singleton.1 hmem ▸ hisHidden)
    | up => exact hname isHidden_upName
    | directory _ hdirectory _ =>
      obtain ⟨inside, hnode⟩ := hdirectory
      obtain ⟨-, ⟨-, heq⟩ | ⟨-, heq⟩⟩ := find?_besideDeadLink hnode
      · cases heq
      · cases heq
    | link _ hnode _ =>
      obtain ⟨-, ⟨-, heq⟩ | ⟨rfl, -⟩⟩ := find?_besideDeadLink hnode
      · cases heq
      · exact hname isHidden_dead

theorem find_besideDeadLink : (besideDeadLink.walkSetting false []).find [.ofString ".dead"] =
    .ok (.vacant [.ofString "nowhere"]) := by
  have hfind (location : Location) := wellFormed_besideDeadLink.tree.find?_sorted location
  have htarget : (Path.ofString "nowhere").names = [.ofString "nowhere"] := by decide
  have hending : (Path.ofString "nowhere").ending = .name := by decide
  have hshort : ¬ (besideDeadLink.walkSetting false []).isTooLong [.ofString ".dead"] := by decide
  have hlink : besideDeadLink.sorted.root.find? [.ofString ".dead"] =
      some (.link (.ofString "nowhere")) := hfind _
  rw [Walk.Setting.find, if_neg hshort]
  apply FileSystem.follow_eq_ok_iff.2
  refine ⟨1, by decide, .link (by decide) (by decide) hlink ?_⟩
  rw [htarget, hending]
  exact .vacant (by decide) (by decide) (hfind [.ofString "nowhere"]) (by decide)

theorem hidesFault_besideDeadLink : (besideDeadLink.walkSetting false []).HidesFault := by
  have hhidden : (besideDeadLink.walkSetting false []).shows (.ofString ".dead") = false := by
    simp [Walk.Setting.shows, FileSystem.walkSetting, isHidden_dead]
  have hlink : besideDeadLink.sorted.root.find? [.ofString ".dead"] =
      some (.link (.ofString "nowhere")) := wellFormed_besideDeadLink.tree.find?_sorted _
  refine ⟨[], ⟨[], []⟩, .ofString ".dead", _, .base, hhidden, hlink, ?_⟩
  intro found hfound
  exact .inl ⟨_, Except.ok.inj (hfound.symm.trans find_besideDeadLink)⟩

theorem walk_routeFile : (routeFile.walk false []).outcome = .ok () := by
  have hroot := wellFormed_routeFile.hasDirectory_root
  apply FileSystem.walk_ok_of_files wellFormed_routeFile hroot
  intro name node hnode
  have hmem := (wellFormed_routeFile.mem_entriesAt hroot).2 hnode
  cases List.mem_singleton.1 hmem
  exact .inl ⟨_, rfl⟩

theorem findRoutes_routeFile :
    ∃ files, (findRoutes rootConfig routeFile).outcome = .ok files := by
  obtain ⟨includes, ignores, hincludes, hignores, -⟩ := compile_standard
  have hwalk : (routeFile.walk rootConfig.hidden []).outcome = .ok () := walk_routeFile
  have houtcome := outcome_findRoutes (baseLocation_rootConfig routeFile) hincludes hignores
  rw [hwalk] at houtcome
  exact ⟨_, houtcome⟩

/-- The hidden link alone makes a difference. -/
theorem findRoutes_besideDeadLink_ne :
    rootConfig.hidden = false ∧ besideDeadLink.WellFormed ∧ routeFile.WellFormed ∧
      rootConfig.baseLocation besideDeadLink = .ok [] ∧
      rootConfig.baseLocation routeFile = .ok [] ∧ besideDeadLink.SameBesidesHidden routeFile [] ∧
      besideDeadLink.SameBehindLinks routeFile [] ∧
      (findRoutes rootConfig besideDeadLink).outcome ≠
        (findRoutes rootConfig routeFile).outcome := by
  refine ⟨rfl, wellFormed_besideDeadLink, wellFormed_routeFile, baseLocation_rootConfig _,
    baseLocation_rootConfig _, sameBesidesHidden_deadLink, sameBehindLinks_deadLink,
    fun hsame => ?_⟩
  obtain ⟨files, hfiles⟩ := findRoutes_routeFile
  obtain ⟨hwalk, -⟩ :=
    walk_ok_of_findRoutes_ok (baseLocation_rootConfig besideDeadLink) (hsame.trans hfiles)
  exact FileSystem.not_hidesFault_of_walk_ok wellFormed_besideDeadLink
    wellFormed_besideDeadLink.hasDirectory_root hwalk hidesFault_besideDeadLink

/-- The hidden link makes discovery fail. -/
theorem findRoutes_sameBesidesHidden_deadLink :
    ∃ fault, (findRoutes rootConfig besideDeadLink).outcome = .error (.walk fault) := by
  obtain ⟨files, hfiles⟩ := findRoutes_routeFile
  have h := findRoutes_sameBesidesHidden rfl wellFormed_besideDeadLink wellFormed_routeFile
    (baseLocation_rootConfig _) (baseLocation_rootConfig _) sameBesidesHidden_deadLink
    sameBehindLinks_deadLink
  exact (h.2 files hfiles).2 hidesFault_besideDeadLink

end DeadLink

end RouteTable
