import RouteTable.Files.Change
import RouteTable.Proofs.Files.Growing
import RouteTable.Proofs.Files.Putting
import RouteTable.Proofs.Reporting

/-!
What changes do to a file system. A file that is written is found by its path, and whatever else
there was stays as it was; directories are made only where there is nothing.
-/

namespace RouteTable

theorem Path.slash_notMem_of_mem_pieces {bytes : List UInt8} {piece : FileName}
    (h : piece ∈ pieces bytes) : slash ∉ piece := by
  induction bytes generalizing piece with
  | nil =>
    obtain rfl := List.mem_singleton.1 h
    exact List.not_mem_nil
  | cons byte bytes ih =>
    rw [pieces, List.splitOnP_cons_eq_if_modifyHead] at h
    split at h
    · rcases List.mem_cons.1 h with rfl | h
      · exact List.not_mem_nil
      · exact ih h
    · rename_i hbyte
      obtain ⟨first, rest, hsplit⟩ :=
        List.exists_cons_of_ne_nil (List.splitOnP_ne_nil (· == slash) bytes)
      rw [pieces, hsplit] at ih
      rw [hsplit] at h
      rcases List.mem_cons.1 h with rfl | h
      · rw [List.mem_cons, not_or]
        exact ⟨fun heq => hbyte (beq_iff_eq.2 heq.symm), ih List.mem_cons_self⟩
      · exact ih (List.mem_cons_of_mem _ h)

/-- The names of a path can be those of entries, if they are no steps upwards. -/
theorem Path.isProper_of_mem_names {path : Path} {name : FileName} (h : name ∈ path.names)
    (hup : name ≠ FileSystem.upName) (hlength : name.length ≤ FileSystem.maximalName) :
    name.IsProper := by
  obtain ⟨hpiece, hname⟩ := List.mem_filter.1 h
  exact ⟨hname, hup, slash_notMem_of_mem_pieces hpiece, hlength⟩

namespace FileSystem

variable {fs fs' : FileSystem} {written : Location → Prop} {location location' : Location}
  {links : Nat} {ending : Path.Ending} {names : List FileName} {path : Path}
  {contents : List UInt8}

section Making

/-- Where a file can be made, the path leads to the same for any other purpose. -/
theorem follow_of_making {found : Found}
    (h : fs.follow true links location ending names = .ok found) :
    fs.follow false links location ending names = .ok found := by
  fun_induction follow fs true links location ending names with
  | case1 =>
    rw [follow_nil]
    exact h
  | case2 _ _ _ _ ih =>
    rw [follow_up]
    exact ih h
  | case3 => cases h
  | case4 => cases h
  | case5 _ _ _ _ _ hup _ hlength hnode hend =>
    rw [lookup_entriesAt] at hnode
    rw [follow_missing hup (Nat.le_of_not_lt hlength) hnode, if_pos hend]
    exact h
  | case6 => cases h
  | case7 _ _ _ _ _ hup _ hlength _ hnode hend =>
    rw [lookup_entriesAt] at hnode
    rw [follow_file hup (Nat.le_of_not_lt hlength) hnode, if_pos hend]
    exact h
  | case8 => cases h
  | case9 _ _ _ _ _ hup _ hlength _ hnode ih =>
    rw [lookup_entriesAt] at hnode
    rw [follow_directory hup (Nat.le_of_not_lt hlength) hnode]
    exact ih h
  | case10 => cases h
  | case11 _ _ _ _ hup _ hlength _ hnode _ ih =>
    rw [lookup_entriesAt] at hnode
    rw [follow_link hup (Nat.le_of_not_lt hlength) hnode]
    exact ih h

/-- Where no link is followed, a path that does not end with a slash leads to the same where a file
is to be made. -/
theorem Leads.making_of_noLink {found : Found} (h : fs.Leads location ending names 0 found)
    (hslash : ending ≠ .slash) : fs.follow true links location ending names = .ok found := by
  generalize hn : 0 = n at h
  induction h with
  | here => rw [follow]
  | up _ ih =>
    rw [follow, if_pos rfl]
    exact ih hslash hn
  | vacant hup hlength hnode hending =>
    rw [follow, if_neg hup, if_neg fun h => hslash h.2.2, if_neg (Nat.not_lt.2 hlength),
      lookup_entriesAt, hnode]
    exact if_pos ⟨rfl, hending⟩
  | file hup hlength hnode =>
    rw [follow, if_neg hup, if_neg fun h => hslash h.2.2, if_neg (Nat.not_lt.2 hlength),
      lookup_entriesAt, hnode]
    exact if_pos ⟨rfl, rfl⟩
  | directory hup hlength hnode _ ih =>
    rw [follow, if_neg hup, if_neg fun h => hslash h.2.2, if_neg (Nat.not_lt.2 hlength),
      lookup_entriesAt, hnode]
    exact ih hslash hn
  | link => cases hn

/-- A path to a file leads to it as well where the file is to be written. -/
theorem Leads.making {n : Nat} {found : Found} (h : fs.Leads location ending names n found)
    (hfile : found = .file location' contents) (hlinks : n ≤ links) :
    fs.follow true links location ending names = .ok found := by
  have hslash {location : Location} {ending : Path.Ending} {name : FileName}
      {rest : List FileName} {n : Nat}
      (hleads : fs.Leads location ending (name :: rest) n found) :
      ¬ (true = true ∧ rest.isEmpty ∧ ending = .slash) := by
    rw [hleads.ending_eq hfile]
    simp
  induction h generalizing links with
  | here => cases hfile
  | up _ ih =>
    rw [follow, if_pos rfl]
    exact ih hfile hlinks hslash
  | vacant => cases hfile
  | file hup hlength hnode =>
    rw [follow, if_neg hup, if_neg (by simp), if_neg (Nat.not_lt.2 hlength), lookup_entriesAt,
      hnode]
    exact if_pos ⟨rfl, rfl⟩
  | directory hup hlength hnode hrest ih =>
    rw [follow, if_neg hup, if_neg (hslash (.directory hup hlength hnode hrest)),
      if_neg (Nat.not_lt.2 hlength), lookup_entriesAt, hnode]
    exact ih hfile hlinks hslash
  | link hup hlength hnode hrest ih =>
    obtain ⟨links, rfl⟩ := Nat.exists_eq_add_of_le' (Nat.le_trans (Nat.succ_pos _) hlinks)
    rw [follow, if_neg hup, if_neg (hslash (.link hup hlength hnode hrest)),
      if_neg (Nat.not_lt.2 hlength), lookup_entriesAt, hnode]
    exact ih hfile (Nat.le_of_succ_le_succ hlinks) hslash

/-- Where a file was to be made, the path leads to it once it is there. -/
theorem Grows.follow_written {found : Found} (h : fs.Grows fs' written)
    (hfollow : fs.follow true links location ending names = .ok found)
    (hfound : found = .vacant location' ∨ ∃ old, found = .file location' old)
    (hnode : fs'.root.find? location' = some (.file contents)) :
    fs'.follow false links location ending names = .ok (.file location' contents) := by
  fun_induction FileSystem.follow fs true links location ending names with
  | case1 =>
    cases hfollow
    rcases hfound with heq | ⟨_, heq⟩ <;> cases heq
  | case2 _ _ _ _ ih =>
    rw [follow_up]
    exact ih hfollow
  | case3 => cases hfollow
  | case4 => cases hfollow
  | case5 _ _ ending _ _ hup hslash hlength _ hend =>
    cases hfollow
    rcases hfound with heq | ⟨_, heq⟩
    · cases heq
      have hname : ending = .name := by
        cases ending with
        | name => rfl
        | slash => exact absurd ⟨rfl, hend.1, rfl⟩ hslash
        | point => exact absurd rfl hend.2
      rw [follow_file hup (Nat.le_of_not_lt hlength) hnode, if_pos ⟨hend.1, hname⟩]
    · cases heq
  | case6 => cases hfollow
  | case7 _ _ _ _ _ hup _ hlength _ _ hend =>
    cases hfollow
    rcases hfound with heq | ⟨_, heq⟩
    · cases heq
    · cases heq
      rw [follow_file hup (Nat.le_of_not_lt hlength) hnode, if_pos hend]
  | case8 => cases hfollow
  | case9 _ _ _ _ _ hup _ hlength _ hold ih =>
    rw [lookup_entriesAt] at hold
    obtain ⟨inside', hold'⟩ := h.hasDirectory ⟨_, hold⟩
    rw [follow_directory hup (Nat.le_of_not_lt hlength) hold']
    exact ih hfollow
  | case10 => cases hfollow
  | case11 _ _ _ _ hup _ hlength _ hold _ ih =>
    rw [lookup_entriesAt] at hold
    rw [follow_link hup (Nat.le_of_not_lt hlength) (h.find?_link_iff.2 hold)]
    exact ih hfollow

end Making

section Places

/-- Whether a location is that of an entry that a directory has or could have. -/
def IsEntry (fs : FileSystem) (location : Location) : Prop :=
  ∃ outer name, location = outer ++ [name] ∧ fs.HasDirectory outer ∧ name.IsProper

theorem WellFormed.isEntry_of_file (h : fs.WellFormed)
    (hfile : fs.root.find? location = some (.file contents)) : fs.IsEntry location := by
  rcases List.eq_nil_or_concat location with rfl | ⟨outer, name, rfl⟩
  · obtain ⟨inside, hroot⟩ := h.hasDirectory_root
    cases hfile.symm.trans hroot
  · rw [List.concat_eq_append] at hfile ⊢
    exact ⟨outer, name, rfl, hasDirectory_of_find? hfile,
      (h.tree.find? hfile).2 name (by simp)⟩

/-- A path to nothing ends where there could be an entry. -/
theorem Leads.isEntry_of_vacant {n : Nat} {found : Found}
    (h : fs.Leads location ending names n found) (hvacant : found = .vacant location')
    (hdirectory : fs.HasDirectory location) (hnames : ∀ name ∈ names, ∃ path : Path,
      name ∈ path.names) :
    fs.IsEntry location' ∧ fs.root.find? location' = none := by
  induction h with
  | here => cases hvacant
  | up _ ih =>
    exact ih hvacant hdirectory.dropLast fun name hmem => hnames name (List.mem_cons_of_mem _ hmem)
  | vacant hup hlength hnode _ =>
    cases hvacant
    obtain ⟨path, hmem⟩ := hnames _ List.mem_cons_self
    exact ⟨⟨_, _, rfl, hdirectory, Path.isProper_of_mem_names hmem hup hlength⟩, hnode⟩
  | file => cases hvacant
  | directory _ _ hnode _ ih =>
    exact ih hvacant ⟨_, hnode⟩ fun name hmem => hnames name (List.mem_cons_of_mem _ hmem)
  | @link _ _ _ _ _ _ target _ _ _ _ ih =>
    refine ih hvacant ?_ (List.forall_mem_append.2 ⟨fun name hmem => ⟨target, hmem⟩,
      fun name hmem => hnames name (List.mem_cons_of_mem _ hmem)⟩)
    split
    · exact hdirectory.root
    · exact hdirectory

theorem find?_of_childless {node : FileNode} (h : ∀ name, node.child? name = none)
    {inner : Location} (hinner : inner ≠ []) : node.find? inner = none := by
  rcases inner with _ | ⟨name, rest⟩
  · exact absurd rfl hinner
  · rw [FileNode.find?, h name, Option.bind_none]

/-- A file system with a node that has no entries in the place of one that has none. -/
theorem WellFormed.put {new : FileNode} (h : fs.WellFormed) (hentry : fs.IsEntry location)
    (hnew : new.WellFormed) (hchildless : ∀ name, new.child? name = none)
    (hold : ∀ node, fs.root.find? location = some node → ∀ name, node.child? name = none)
    (hbecomes :
      FileNode.Becomes (written location) (fs.root.find? location) (some new)) :
    ({ fs with root := fs.root.put new location } : FileSystem).WellFormed ∧
      fs.Grows { fs with root := fs.root.put new location } written := by
  obtain ⟨outer, name, rfl, hdirectory, hname⟩ := hentry
  have hgrows : fs.Grows { fs with root := fs.root.put new (outer ++ [name]) } written := by
    refine ⟨rfl, fun other => ?_⟩
    by_cases hother : outer ++ [name] <+: other
    · obtain ⟨inner, rfl⟩ := hother
      rw [FileNode.find?_put_append]
      rcases eq_or_ne inner [] with rfl | hinner
      · rw [List.append_nil]
        exact hbecomes
      · have hbefore : fs.root.find? (outer ++ [name] ++ inner) = none := by
          rw [FileNode.find?_append]
          rcases hnode : fs.root.find? (outer ++ [name]) with _ | node
          · rfl
          · exact find?_of_childless (hold node hnode) hinner
        rw [hbefore, find?_of_childless hchildless hinner]
        exact .nothing
    · exact .of_bare_eq (FileNode.bare_find?_put hdirectory.find? hother).symm
  exact ⟨⟨h.tree.put hnew hdirectory.find? hname, hgrows.hasDirectory h.workingDirectory⟩, hgrows⟩

end Places

section Changes

/-- What there is to say about files that have been written at a path, the directory that they are
in being made before if need be. -/
structure Writes (fs fs' : FileSystem) (path : Path) (contents : List UInt8) (location : Location) :
    Prop where
  wellFormed : fs'.WellFormed
  grows : fs.Grows fs' (· = location)
  find : fs'.find path = .ok (.file location contents)

/-- A file that is written is found at its path, and no other file changes. -/
theorem WellFormed.writes_of_write (h : fs.WellFormed) (hwrite : fs.write path contents = .ok fs') :
    ∃ location, fs.Writes fs' path contents location := by
  obtain ⟨location, found, hfind, hfound, rfl⟩ : ∃ location found,
      findFor true fs path = .ok found ∧
        (found = .vacant location ∨ ∃ old, found = .file location old) ∧
        fs' = { fs with root := fs.root.put (.file contents) location } := by
    rw [write] at hwrite
    split at hwrite
    · rename_i hfind
      cases hwrite
      exact ⟨_, _, hfind, .inr ⟨_, rfl⟩, rfl⟩
    · rename_i hfind
      cases hwrite
      exact ⟨_, _, hfind, .inl rfl, rfl⟩
    · cases hwrite
    · cases hwrite
  obtain ⟨husable, hfollow⟩ := findFor_eq_ok_iff.1 hfind
  obtain ⟨n, -, hleads⟩ := follow_eq_ok_iff.1 (follow_of_making hfollow)
  have hstart := h.hasDirectory_start path
  obtain ⟨hwell, hgrows⟩ : WellFormed { fs with root := fs.root.put (.file contents) location } ∧
      fs.Grows { fs with root := fs.root.put (.file contents) location } (· = location) := by
    rcases hfound with rfl | ⟨old, rfl⟩
    · obtain ⟨hentry, hnode⟩ :=
        hleads.isEntry_of_vacant rfl hstart fun name hmem => ⟨path, hmem⟩
      refine h.put hentry .file (fun _ => rfl) ?_ ?_
      · intro node hnode'
        cases hnode.symm.trans hnode'
      · rw [hnode]
        exact .new rfl
    · have hnode := hleads.find?_file hstart
      refine h.put (h.isEntry_of_file hnode) .file (fun _ => rfl) ?_ ?_
      · intro node hnode'
        cases hnode.symm.trans hnode'
        exact fun _ => rfl
      · rw [hnode]
        exact .rewritten rfl
  refine ⟨location, hwell, hgrows, findFor_eq_ok_iff.2 ⟨husable, ?_⟩⟩
  exact hgrows.follow_written hfollow hfound (FileNode.find?_put_self _ _ _)

/-- Writing what a file has changes nothing. -/
theorem WellFormed.write_same (h : fs.WellFormed)
    (hfind : fs.find path = .ok (.file location contents)) : fs.write path contents = .ok fs := by
  obtain ⟨husable, hfollow⟩ := findFor_eq_ok_iff.1 hfind
  obtain ⟨n, hn, hleads⟩ := follow_eq_ok_iff.1 hfollow
  have hmaking : findFor true fs path = .ok (.file location contents) :=
    findFor_eq_ok_iff.2 ⟨husable, hleads.making rfl hn⟩
  have hnode := hleads.find?_file (h.hasDirectory_start path)
  rw [write, hmaking]
  dsimp only
  rw [FileNode.put_of_find? hnode]

/-- A file is written where a path without links leads to nothing yet. -/
theorem write_of_leads
    (husable : path.bytes.contains 0 = false ∧ path.isEmpty = false ∧
      path.bytes.length < maximalPath)
    (h : fs.Leads (fs.start path) path.ending path.names 0 (.vacant location))
    (hslash : path.ending ≠ .slash) :
    fs.write path contents = .ok { fs with root := fs.root.put (.file contents) location } := by
  have hfind : findFor true fs path = .ok (.vacant location) :=
    findFor_eq_ok_iff.2 ⟨husable, h.making_of_noLink hslash⟩
  rw [write, hfind]

/-- A directory is made under a name that is missing in the one that a path starts at. -/
theorem makeDirectory_of_missing {name : FileName} (hzero : path.bytes.contains 0 = false)
    (hshort : path.bytes.length < maximalPath) (hnames : path.names = [name]) (hup : name ≠ upName)
    (hlength : name.length ≤ maximalName)
    (hnode : fs.root.find? (fs.start path ++ [name]) = none) :
    fs.makeDirectory path =
      .ok { fs with root := fs.root.put (.directory []) (fs.start path ++ [name]) } := by
  have hfree : ¬ (name = upName ∨ ((fs.entriesAt (fs.start path)).lookup name).isSome) := by
    rw [lookup_entriesAt, hnode]
    exact not_or.2 ⟨hup, Bool.false_ne_true⟩
  rw [makeDirectory, hnames, List.getLast?_singleton]
  dsimp only
  rw [hzero, if_neg Bool.false_ne_true, if_neg (Nat.not_le.2 hshort), List.dropLast_singleton,
    follow_nil]
  dsimp only
  rw [if_neg hfree, if_neg (Nat.not_lt.2 hlength)]

/-- A directory is made where there is nothing. -/
theorem WellFormed.makeDirectory (h : fs.WellFormed) (hmake : fs.makeDirectory path = .ok fs') :
    fs'.WellFormed ∧ fs.Grows fs' fun _ => False := by
  rw [FileSystem.makeDirectory] at hmake
  split at hmake
  · split at hmake
    · cases hmake
    · split at hmake <;> cases hmake
  · rename_i name hlast
    split at hmake
    · cases hmake
    split at hmake
    · cases hmake
    split at hmake
    · rename_i location entries hfollow
      split at hmake
      · cases hmake
      rename_i hfree
      split at hmake
      · cases hmake
      rename_i hlength
      cases hmake
      rw [not_or, Bool.not_eq_true, Option.isSome_eq_false_iff, Option.isNone_iff_eq_none] at hfree
      obtain ⟨n, -, hleads⟩ := follow_eq_ok_iff.1 hfollow
      have hinside := hleads.find?_directory (h.hasDirectory_start path)
      have hnode : fs.root.find? (location ++ [name]) = none := by
        rw [← lookup_entriesAt, entriesAt_of_find? hinside]
        exact hfree.2
      have hproper := Path.isProper_of_mem_names (List.mem_of_getLast? hlast) hfree.1
        (Nat.le_of_not_lt hlength)
      refine h.put ⟨location, name, rfl, ⟨entries, hinside⟩, hproper⟩
        (.directory List.nodup_nil (List.forall_mem_nil _) (List.forall_mem_nil _))
        (fun _ => rfl) ?_ ?_
      · intro node hnode'
        cases hnode.symm.trans hnode'
      · rw [hnode]
        exact .made
    · cases hmake
    · cases hmake

end Changes

section Directories

/-- Changes that can be made one after another leave the files as the last of them does. -/
theorem perform_of_foldlM {changes : List FileChange} (h : changes.foldlM change fs = .ok fs') :
    fs.perform changes = fs' := by
  induction changes generalizing fs with
  | nil =>
    cases h
    rfl
  | cons first rest ih =>
    rw [List.foldlM_cons] at h
    rw [perform]
    rcases hfirst : fs.change first with fault | middle
    · rw [hfirst] at h
      cases h
    · rw [hfirst] at h
      exact ih h

/-- Whether a step that succeeds has made the changes that it reports, and has made directories
only. -/
def Builds (fs : FileSystem) (step : Changing) : Prop :=
  ∀ fs', step.outcome = .ok fs' →
    step.reports.foldlM change fs = .ok fs' ∧ fs'.WellFormed ∧ fs.Grows fs' fun _ => False

theorem WellFormed.builds_pure (h : fs.WellFormed) : fs.Builds (pure fs) := by
  intro fs' hok
  cases hok
  exact ⟨rfl, h, .refl fs _⟩

theorem Builds.bind {step : Changing} {next : FileSystem → Changing} (h : fs.Builds step)
    (hnext : ∀ fs' : FileSystem, fs'.WellFormed → fs'.Builds (next fs')) :
    fs.Builds (step >>= next) := by
  intro fs'' hok
  obtain ⟨fs', hstep, hrest⟩ := Reporting.outcome_bind_eq_ok_iff.1 hok
  obtain ⟨hreports, hwell, hgrows⟩ := h fs' hstep
  obtain ⟨hreports', hwell', hgrows'⟩ := hnext fs' hwell fs'' hrest
  refine ⟨?_, hwell', hgrows.trans hgrows'⟩
  rw [Reporting.reports_bind_of_ok hstep, List.foldlM_append, hreports]
  exact hreports'

theorem WellFormed.builds_makeUnlessThere (h : fs.WellFormed) (path : Path) :
    fs.Builds (fs.makeUnlessThere path) := by
  rw [makeUnlessThere]
  split
  · rename_i changed hmake
    intro fs' hok
    cases hok
    obtain ⟨hwell, hgrows⟩ := h.makeDirectory hmake
    refine ⟨?_, hwell, hgrows⟩
    rw [List.foldlM_cons, change, hmake]
    rfl
  · split
    · exact h.builds_pure
    · intro fs' hok
      cases hok

theorem WellFormed.builds_makeDirectoriesWithin (h : fs.WellFormed) (count : Nat) (path : Path) :
    fs.Builds (fs.makeDirectoriesWithin count path) := by
  induction count generalizing fs path with
  | zero => exact h.builds_pure
  | succ count ih =>
    rw [makeDirectoriesWithin]
    split
    · exact h.builds_pure
    · split
      · dsimp only
        split
        · exact Builds.bind (ih h _) fun fs' hwell => hwell.builds_makeUnlessThere path
        · exact Builds.bind h.builds_pure fun fs' hwell => hwell.builds_makeUnlessThere path
      · exact h.builds_makeUnlessThere path

theorem WellFormed.builds_makeDirectories (h : fs.WellFormed) (path : Path) :
    fs.Builds (fs.makeDirectories path) :=
  h.builds_makeDirectoriesWithin _ path

end Directories

end FileSystem

end RouteTable
