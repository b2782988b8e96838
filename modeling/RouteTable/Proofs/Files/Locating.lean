import Mathlib.Data.List.Induction
import RouteTable.Proofs.Files.WellFormed

/-!
What is at the end of a path: the directory or the file of its location. The location of a directory
is itself a path to it, without links.
-/

namespace RouteTable

namespace FileSystem

variable {fs : FileSystem} {location : Location}

def HasDirectory (fs : FileSystem) (location : Location) : Prop :=
  ∃ inside, fs.root.find? location = some (.directory inside)

theorem entriesAt_of_find? {inside : FileEntries}
    (h : fs.root.find? location = some (.directory inside)) : fs.entriesAt location = inside := by
  rw [entriesAt, h]

theorem HasDirectory.find? (h : fs.HasDirectory location) :
    fs.root.find? location = some (.directory (fs.entriesAt location)) := by
  obtain ⟨inside, hinside⟩ := h
  rw [entriesAt_of_find? hinside, hinside]

theorem HasDirectory.of_append {inner : Location} (h : fs.HasDirectory (location ++ inner)) :
    fs.HasDirectory location := by
  obtain ⟨inside, hfind⟩ := h
  rw [FileNode.find?_append] at hfind
  obtain ⟨node, hnode, hinner⟩ := Option.bind_eq_some_iff.1 hfind
  cases node with
  | directory entries => exact ⟨entries, hnode⟩
  | file contents =>
    rcases inner with _ | ⟨name, inner⟩
    · cases hinner
    · cases hinner
  | link target =>
    rcases inner with _ | ⟨name, inner⟩
    · cases hinner
    · cases hinner

/-- What has an entry is a directory. -/
theorem hasDirectory_of_find? {name : FileName} {node : FileNode}
    (h : fs.root.find? (location ++ [name]) = some node) : fs.HasDirectory location := by
  rw [FileNode.find?_append] at h
  obtain ⟨parent, hparent, hname⟩ := Option.bind_eq_some_iff.1 h
  cases parent with
  | directory entries => exact ⟨entries, hparent⟩
  | file contents => cases hname
  | link target => cases hname

theorem HasDirectory.dropLast (h : fs.HasDirectory location) :
    fs.HasDirectory location.dropLast := by
  rcases List.eq_nil_or_concat location with rfl | ⟨outer, name, rfl⟩
  · exact h
  · rw [List.concat_eq_append, List.dropLast_concat]
    rw [List.concat_eq_append] at h
    exact h.of_append

theorem HasDirectory.root (h : fs.HasDirectory location) : fs.HasDirectory [] := by
  rw [← List.nil_append location] at h
  exact h.of_append

/-- Whether a file system is one that there can be. -/
structure WellFormed (fs : FileSystem) : Prop where
  tree : fs.root.WellFormed
  workingDirectory : fs.HasDirectory fs.workingDirectory

/-- A directory without others in it is a file system. -/
theorem wellFormed_of_flat {entries : FileEntries} (distinct : (entries.map Prod.fst).Nodup)
    (proper : ∀ entry ∈ entries, entry.1.IsProper)
    (flat : ∀ entry ∈ entries, entry.2.isDirectory = false) :
    WellFormed ⟨.directory entries, []⟩ where
  tree := by
    refine .directory distinct proper fun entry hmem => ?_
    obtain ⟨name, node⟩ := entry
    cases node with
    | file contents => exact .file
    | link target => exact .link
    | directory inside => cases flat _ hmem
  workingDirectory := ⟨entries, rfl⟩

theorem WellFormed.hasDirectory_root (h : fs.WellFormed) : fs.HasDirectory [] :=
  h.workingDirectory.root

theorem WellFormed.hasDirectory_start (h : fs.WellFormed) (path : Path) :
    fs.HasDirectory (fs.start path) := by
  rw [start]
  split
  · exact h.hasDirectory_root
  · exact h.workingDirectory

/-- The directory at a location has well-formed entries. -/
theorem WellFormed.entriesAt (h : fs.WellFormed) (hdirectory : fs.HasDirectory location) :
    (FileNode.directory (fs.entriesAt location)).WellFormed :=
  (h.tree.find? hdirectory.find?).1

theorem WellFormed.mem_entriesAt (h : fs.WellFormed) (hdirectory : fs.HasDirectory location)
    {name : FileName} {node : FileNode} :
    (name, node) ∈ fs.entriesAt location ↔ fs.root.find? (location ++ [name]) = some node := by
  rw [← lookup_entriesAt]
  cases h.entriesAt hdirectory with
  | directory distinct _ _ => exact (FileEntries.lookup_eq_some_iff distinct).symm

theorem WellFormed.find?_up (h : fs.WellFormed) : fs.root.find? (location ++ [upName]) = none := by
  rcases hnode : fs.root.find? (location ++ [upName]) with _ | node
  · rfl
  · exact absurd rfl ((h.tree.find? hnode).2 upName (by simp)).ne_up

theorem WellFormed.find?_of_mem (h : fs.WellFormed) (hdirectory : fs.HasDirectory location)
    {entry : FileName × FileNode} (hmem : entry ∈ fs.entriesAt location) :
    fs.root.find? (location ++ [entry.1]) = some entry.2 :=
  (h.mem_entriesAt hdirectory).1 hmem

section Ends

variable {ending : Path.Ending} {names : List FileName} {n : Nat} {found : Found}

/-- A path leads to a directory that there is, with all its entries, or to a file that there is. -/
theorem Leads.find? (h : fs.Leads location ending names n found)
    (hdirectory : fs.HasDirectory location) :
    (∀ location' inside, found = .directory location' inside →
        fs.root.find? location' = some (.directory inside)) ∧
      ∀ location' contents, found = .file location' contents →
        fs.root.find? location' = some (.file contents) := by
  induction h with
  | here =>
    refine ⟨?_, ?_⟩
    · intro location' inside heq
      cases heq
      exact hdirectory.find?
    · intro location' contents heq
      cases heq
  | up _ ih => exact ih hdirectory.dropLast
  | vacant =>
    refine ⟨?_, ?_⟩
    · intro location' inside heq
      cases heq
    · intro location' contents heq
      cases heq
  | file _ _ hnode =>
    refine ⟨?_, ?_⟩
    · intro location' inside heq
      cases heq
    · intro location' contents heq
      cases heq
      exact hnode
  | directory _ _ hnode _ ih => exact ih ⟨_, hnode⟩
  | link _ _ _ _ ih =>
    apply ih
    split
    · exact hdirectory.root
    · exact hdirectory

theorem Leads.find?_directory {location' : Location} {inside : FileEntries}
    (h : fs.Leads location ending names n (.directory location' inside))
    (hdirectory : fs.HasDirectory location) :
    fs.root.find? location' = some (.directory inside) :=
  (h.find? hdirectory).1 location' inside rfl

theorem Leads.find?_file {location' : Location} {contents : List UInt8}
    (h : fs.Leads location ending names n (.file location' contents))
    (hdirectory : fs.HasDirectory location) :
    fs.root.find? location' = some (.file contents) :=
  (h.find? hdirectory).2 location' contents rfl

/-- A path to a file starts with a name that there is. -/
theorem Leads.exists_node {name : FileName} {rest : List FileName} {location' : Location}
    {contents : List UInt8}
    (h : fs.Leads location ending (name :: rest) n (.file location' contents))
    (hup : name ≠ upName) : ∃ node, fs.root.find? (location ++ [name]) = some node := by
  cases h with
  | up => exact absurd rfl hup
  | file _ _ hnode => exact ⟨_, hnode⟩
  | directory _ _ hnode _ => exact ⟨_, hnode⟩
  | link _ _ hnode _ => exact ⟨_, hnode⟩

/-- The location of a directory leads to it from the root. -/
theorem WellFormed.leads_directory (h : fs.WellFormed) (hdirectory : fs.HasDirectory location)
    (ending : Path.Ending) :
    fs.Leads [] ending location 0 (.directory location (fs.entriesAt location)) := by
  induction location using List.reverseRecOn generalizing ending with
  | nil => exact .here
  | append_singleton outer name ih =>
    have hproper := (h.tree.find? hdirectory.find?).2 name (by simp)
    have houter := ih hdirectory.of_append .name
    exact houter.append rfl
      (.directory hproper.ne_up hproper.length_le hdirectory.find? .here) (List.cons_ne_nil _ _)

/-- The location of a file leads to no directory. -/
theorem WellFormed.leads_file (h : fs.WellFormed) {contents : List UInt8}
    (hfile : fs.root.find? location = some (.file contents)) {location' : Location}
    {inside : FileEntries} :
    ¬ fs.Leads [] ending location n (.directory location' inside) := by
  intro hleads
  rcases List.eq_nil_or_concat location with rfl | ⟨outer, name, rfl⟩
  · obtain ⟨inside, hroot⟩ := h.hasDirectory_root
    cases hfile.symm.trans hroot
  · rw [List.concat_eq_append] at hfile hleads
    have houter := hasDirectory_of_find? hfile
    have hproper := (h.tree.find? hfile).2 name (by simp)
    obtain ⟨_, _, middle, _, hfirst, hsecond⟩ := hleads.split (List.cons_ne_nil name [])
    have hmiddle := (hfirst .name).unique (h.leads_directory houter .name)
    cases hmiddle
    have hfollow := follow_eq_ok_iff.2 ⟨_, Nat.le_refl _, hsecond⟩
    rw [follow_file hproper.ne_up hproper.length_le hfile] at hfollow
    split at hfollow
    · cases hfollow
    · cases hfollow

end Ends

section Names

/-- Names behind slashes are the pieces between the slashes. -/
theorem pieces_append_flatMap {name : FileName} {rest : List FileName}
    (hname : Path.slash ∉ name) (hrest : ∀ name ∈ rest, Path.slash ∉ name) :
    Path.pieces (name ++ rest.flatMap (Path.slash :: ·)) = name :: rest := by
  have hplain {name : FileName} (h : Path.slash ∉ name) : ∀ b ∈ name, (b == Path.slash) = false :=
    fun b hb => beq_false_of_ne fun heq => h (heq ▸ hb)
  induction rest generalizing name with
  | nil =>
    rw [List.flatMap_nil, List.append_nil]
    exact List.splitOnP_eq_singleton (hplain hname)
  | cons second rest ih =>
    have hsecond := ih (hrest second List.mem_cons_self)
      fun name hmem => hrest name (List.mem_cons_of_mem _ hmem)
    rw [List.flatMap_cons, List.cons_append, ← hsecond]
    exact List.splitOnP_append_cons_of_forall_mem (hplain hname) _ (beq_self_eq_true _) _

theorem names_ofNames {names : List FileName}
    (h : ∀ name ∈ names, Path.isName name ∧ Path.slash ∉ name) :
    (Path.ofNames names).names = names := by
  rcases names with _ | ⟨name, rest⟩
  · rfl
  · have hpieces := pieces_append_flatMap (h name List.mem_cons_self).2
      fun name' hmem => (h name' (List.mem_cons_of_mem _ hmem)).2
    have hfilter : (name :: rest).filter Path.isName = name :: rest :=
      List.filter_eq_self.2 fun name' hmem => (h name' hmem).1
    calc (Path.ofNames (name :: rest)).names
        = (Path.pieces (Path.slash :: (name ++ rest.flatMap (Path.slash :: ·)))).filter
            Path.isName := rfl
      _ = ([] :: Path.pieces (name ++ rest.flatMap (Path.slash :: ·))).filter Path.isName := by
          rw [Path.pieces, List.splitOnP_cons_eq_if_modifyHead, if_pos (beq_self_eq_true _)]
          rfl
      _ = (name :: rest).filter Path.isName := by rw [hpieces]; rfl
      _ = name :: rest := hfilter

/-- The path of a location has the names of the location. -/
theorem names_path {location : Location} (h : ∀ name ∈ location, name.IsProper) :
    (Location.path location).names = location :=
  names_ofNames fun name hmem => ⟨(h name hmem).isName, (h name hmem).slash_notMem⟩

theorem bytes_path {location : Location} (h : location ≠ []) :
    (Location.path location).bytes = location.flatMap (Path.slash :: ·) := by
  cases location with
  | nil => exact absurd rfl h
  | cons name rest => rfl

theorem contains_zero_path {location : Location} (h : ∀ name ∈ location, 0 ∉ name) :
    (Location.path location).bytes.contains 0 = false := by
  cases location with
  | nil => rfl
  | cons name rest =>
    rw [List.contains_eq_mem, decide_eq_false_iff_not]
    intro hmem
    obtain ⟨part, hpart, hzero⟩ := List.mem_flatMap.1 hmem
    rcases List.mem_cons.1 hzero with hslash | hzero
    · cases hslash
    · exact h part hpart hzero

theorem isAbsolute_path (location : Location) : (Location.path location).isAbsolute := by
  cases location with
  | nil => rfl
  | cons name rest => exact decide_eq_true rfl

end Names

/-- A path that is found leads there. -/
theorem leads_of_find {path : Path} {found : Found} (h : fs.find path = .ok found) :
    ∃ n, fs.Leads (fs.start path) path.ending path.names n found := by
  rw [find, findFor] at h
  split at h
  · cases h
  · split at h
    · cases h
    · split at h
      · cases h
      · obtain ⟨n, -, hleads⟩ := follow_eq_ok_iff.1 h
        exact ⟨n, hleads⟩

/-- A path that is located and found to be a directory is at a location of a directory. -/
theorem WellFormed.hasDirectory_of_locate (h : fs.WellFormed) {path : Path}
    (hlocate : fs.locate path = .ok location) (hpath : fs.isDirectory location.path) :
    fs.HasDirectory location := by
  rw [locate] at hlocate
  split at hlocate
  · rename_i location' contents hfind
    cases hlocate
    obtain ⟨n, hleads⟩ := leads_of_find hfind
    have hfile := hleads.find?_file (h.hasDirectory_start path)
    rw [isDirectory] at hpath
    split at hpath
    · rename_i _ _ hfind'
      obtain ⟨m, hleads'⟩ := leads_of_find hfind'
      rw [names_path (h.tree.find? hfile).2, start, if_pos (isAbsolute_path _)] at hleads'
      exact absurd hleads' (h.leads_file hfile)
    · cases hpath
  · rename_i location' inside hfind
    cases hlocate
    obtain ⟨n, hleads⟩ := leads_of_find hfind
    exact ⟨inside, hleads.find?_directory (h.hasDirectory_start path)⟩
  · cases hlocate
  · cases hlocate

end FileSystem

end RouteTable
