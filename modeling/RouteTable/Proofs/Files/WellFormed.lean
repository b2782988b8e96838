import Mathlib.Data.List.Nodup
import RouteTable.Proofs.Files.Following
import RouteTable.Proofs.Sorting

/-!
Trees of files as systems have them: the names in a directory are proper names, each of them there
once. Sorting such a tree leaves every entry at its location.
-/

namespace RouteTable

/-- Whether a name can be that of an entry. -/
structure FileName.IsProper (name : FileName) : Prop where
  isName : Path.isName name
  ne_up : name ≠ FileSystem.upName
  slash_notMem : Path.slash ∉ name
  length_le : name.length ≤ FileSystem.maximalName

theorem FileName.isProper_iff {name : FileName} :
    name.IsProper ↔ Path.isName name ∧ name ≠ FileSystem.upName ∧ Path.slash ∉ name ∧
      name.length ≤ FileSystem.maximalName :=
  ⟨fun h => ⟨h.isName, h.ne_up, h.slash_notMem, h.length_le⟩,
    fun ⟨hname, hup, hslash, hlength⟩ => ⟨hname, hup, hslash, hlength⟩⟩

instance (name : FileName) : Decidable name.IsProper :=
  decidable_of_iff _ FileName.isProper_iff.symm

/-- Under distinct names, a lookup finds what is there. -/
theorem FileEntries.lookup_eq_some_iff {entries : FileEntries} {name : FileName} {node : FileNode}
    (h : (entries.map Prod.fst).Nodup) :
    entries.lookup name = some node ↔ (name, node) ∈ entries := by
  rw [List.lookup_eq_some_iff]
  constructor
  · rintro ⟨before, after, rfl, -⟩
    exact List.mem_append_right before List.mem_cons_self
  · intro hmem
    obtain ⟨before, after, rfl⟩ := List.append_of_mem hmem
    refine ⟨before, after, rfl, fun entry hentry => ?_⟩
    rw [List.map_append, List.map_cons, List.nodup_append] at h
    have hne := h.2.2 entry.1 (List.mem_map_of_mem hentry) name List.mem_cons_self
    exact bne_iff_ne.2 hne.symm

namespace FileNode

/-- Whether the names in all directories of a tree are proper and distinct. -/
inductive WellFormed : FileNode → Prop where
  | file {contents : List UInt8} : WellFormed (.file contents)
  | link {target : Path} : WellFormed (.link target)
  | directory {entries : FileEntries} (distinct : (entries.map Prod.fst).Nodup)
      (proper : ∀ entry ∈ entries, FileName.IsProper entry.1)
      (inside : ∀ entry ∈ entries, WellFormed entry.2) : WellFormed (.directory entries)

theorem WellFormed.of_directory {entries : FileEntries} (h : WellFormed (.directory entries)) :
    (entries.map Prod.fst).Nodup ∧ (∀ entry ∈ entries, FileName.IsProper entry.1) ∧
      ∀ entry ∈ entries, WellFormed entry.2 := by
  cases h with
  | directory distinct proper inside => exact ⟨distinct, proper, inside⟩

theorem WellFormed.mem_of_child? {node child : FileNode} {name : FileName} (h : node.WellFormed)
    (hchild : node.child? name = some child) :
    ∃ entries : FileEntries, node = .directory entries ∧ (name, child) ∈ entries := by
  cases h with
  | file => cases hchild
  | link => cases hchild
  | @directory entries distinct _ _ =>
    exact ⟨entries, rfl, (FileEntries.lookup_eq_some_iff distinct).1 hchild⟩

theorem WellFormed.child? {node child : FileNode} {name : FileName} (h : node.WellFormed)
    (hchild : node.child? name = some child) : name.IsProper ∧ child.WellFormed := by
  obtain ⟨entries, rfl, hmem⟩ := h.mem_of_child? hchild
  cases h with
  | directory _ proper inside => exact ⟨proper _ hmem, inside _ hmem⟩

/-- What is at a location of a well-formed tree is well-formed, and the names on the way are
proper. -/
theorem WellFormed.find? {node found : FileNode} {location : Location} (h : node.WellFormed)
    (hfound : node.find? location = some found) :
    found.WellFormed ∧ ∀ name ∈ location, name.IsProper := by
  induction location generalizing node with
  | nil =>
    obtain rfl := Option.some.inj hfound
    exact ⟨h, List.forall_mem_nil _⟩
  | cons name rest ih =>
    obtain ⟨child, hchild, hrest⟩ := Option.bind_eq_some_iff.1 hfound
    obtain ⟨hname, hwell⟩ := h.child? hchild
    obtain ⟨hfoundWell, hproper⟩ := ih hwell hrest
    exact ⟨hfoundWell, List.forall_mem_cons.2 ⟨hname, hproper⟩⟩

section Sorting

theorem sortedEntries_eq_map (entries : FileEntries) :
    sortedEntries entries = entries.map fun entry => (entry.1, entry.2.sorted) := by
  induction entries with
  | nil => rfl
  | cons entry rest ih => rw [sortedEntries, ih, List.map_cons]

theorem sorted_directory (entries : FileEntries) :
    sorted (.directory entries) = .directory (sortByKey (sortedEntries entries)) :=
  rfl

/-- The entries of a sorted directory. -/
theorem mem_sorted {entries : FileEntries} {name : FileName} {node : FileNode} :
    (name, node) ∈ sortByKey (sortedEntries entries) ↔
      ∃ child, (name, child) ∈ entries ∧ child.sorted = node := by
  rw [(perm_sortByKey _).mem_iff, sortedEntries_eq_map, List.mem_map]
  constructor
  · rintro ⟨⟨name, child⟩, hmem, heq⟩
    cases heq
    exact ⟨child, hmem, rfl⟩
  · rintro ⟨child, hmem, rfl⟩
    exact ⟨(name, child), hmem, rfl⟩

theorem map_fst_sortedEntries (entries : FileEntries) :
    (sortedEntries entries).map Prod.fst = entries.map Prod.fst := by
  rw [sortedEntries_eq_map, List.map_map]
  rfl

theorem nodup_names_sorted_iff {entries : FileEntries} :
    ((sortByKey (sortedEntries entries)).map Prod.fst).Nodup ↔
      (entries.map Prod.fst).Nodup := by
  rw [nodup_keys_sortByKey_iff, map_fst_sortedEntries]

theorem WellFormed.sorted {node : FileNode} (h : node.WellFormed) : node.sorted.WellFormed := by
  induction h with
  | file => exact .file
  | link => exact .link
  | directory distinct proper inside ih =>
    rw [sorted_directory]
    refine .directory (nodup_names_sorted_iff.2 distinct) ?_ ?_
    · rintro ⟨name, node⟩ hmem
      obtain ⟨child, hchild, -⟩ := mem_sorted.1 hmem
      exact proper (name, child) hchild
    · rintro ⟨name, node⟩ hmem
      obtain ⟨child, hchild, rfl⟩ := mem_sorted.1 hmem
      exact ih _ hchild

theorem WellFormed.child?_sorted {node : FileNode} (h : node.WellFormed) (name : FileName) :
    node.sorted.child? name = (node.child? name).map FileNode.sorted := by
  cases h with
  | file => rfl
  | link => rfl
  | @directory entries distinct _ _ =>
    have hsorted := nodup_names_sorted_iff.2 distinct
    rw [sorted_directory]
    apply Option.ext
    intro node
    rw [FileNode.child?, FileNode.child?, Option.map_eq_some_iff,
      FileEntries.lookup_eq_some_iff hsorted, mem_sorted]
    simp only [FileEntries.lookup_eq_some_iff distinct]

/-- Sorting a tree sorts what is at each location. -/
theorem WellFormed.find?_sorted {node : FileNode} (h : node.WellFormed) (location : Location) :
    node.sorted.find? location = (node.find? location).map FileNode.sorted := by
  induction location generalizing node with
  | nil => rfl
  | cons name rest ih =>
    rw [FileNode.find?, FileNode.find?, h.child?_sorted, Option.map_bind]
    rcases hchild : node.child? name with _ | child
    · rfl
    · exact ih (h.child? hchild).2

end Sorting

section Directories

theorem directoriesOf_eq_flatMap (location : Location) (entries : FileEntries) :
    directoriesOf location entries =
      entries.flatMap fun entry => entry.2.directories (location ++ [entry.1]) := by
  induction entries with
  | nil => rfl
  | cons entry rest ih => rw [directoriesOf, ih, List.flatMap_cons]

/-- The directories in a node are those that locations from it on lead to. -/
theorem WellFormed.mem_directories {node : FileNode} (h : node.WellFormed)
    {location directory : Location} :
    directory ∈ node.directories location ↔
      ∃ inner inside, directory = location ++ inner ∧
        node.find? inner = some (.directory inside) := by
  induction h generalizing location with
  | file =>
    constructor
    · intro hmem
      cases hmem
    · rintro ⟨_ | ⟨_, _⟩, _, _, hfind⟩
      · cases hfind
      · cases hfind
  | link =>
    constructor
    · intro hmem
      cases hmem
    · rintro ⟨_ | ⟨_, _⟩, _, _, hfind⟩
      · cases hfind
      · cases hfind
  | @directory entries distinct proper inside ih =>
    rw [directories, directoriesOf_eq_flatMap, List.mem_cons, List.mem_flatMap]
    constructor
    · rintro (rfl | ⟨⟨name, child⟩, hchild, hmem⟩)
      · exact ⟨[], entries, (List.append_nil _).symm, rfl⟩
      · obtain ⟨inner, inside, rfl, hfind⟩ := (ih _ hchild).1 hmem
        have hlookup := (FileEntries.lookup_eq_some_iff distinct).2 hchild
        refine ⟨name :: inner, inside, List.append_cons .. |>.symm, ?_⟩
        rw [FileNode.find?, FileNode.child?, hlookup]
        exact hfind
    · rintro ⟨_ | ⟨name, inner⟩, inside, rfl, hfind⟩
      · exact .inl (List.append_nil _)
      · obtain ⟨child, hlookup, hinner⟩ := Option.bind_eq_some_iff.1 hfind
        have hchild := (FileEntries.lookup_eq_some_iff distinct).1 hlookup
        exact .inr ⟨(name, child), hchild,
          (ih _ hchild).2 ⟨inner, inside, List.append_cons .., hinner⟩⟩

theorem WellFormed.nodup_directories {node : FileNode} (h : node.WellFormed)
    (location : Location) : (node.directories location).Nodup := by
  induction h generalizing location with
  | file => exact List.nodup_nil
  | link => exact List.nodup_nil
  | @directory entries distinct proper inside ih =>
    rw [directories, directoriesOf_eq_flatMap, List.nodup_cons, List.nodup_flatMap]
    refine ⟨?_, fun entry hentry => ih entry hentry _, ?_⟩
    · intro hmem
      obtain ⟨entry, hentry, hmem⟩ := List.mem_flatMap.1 hmem
      obtain ⟨inner, -, heq, -⟩ := (inside entry hentry).mem_directories.1 hmem
      have hlength := congrArg List.length heq
      simp only [List.length_append, List.length_singleton] at hlength
      omega
    · refine List.Pairwise.imp_of_mem ?_ (List.pairwise_map.1 distinct)
      intro first second hfirst hsecond hne directory hmem hmem'
      obtain ⟨inner, -, rfl, -⟩ := (inside first hfirst).mem_directories.1 hmem
      obtain ⟨inner', -, heq, -⟩ := (inside second hsecond).mem_directories.1 hmem'
      rw [List.append_assoc, List.append_assoc, List.append_cancel_left_eq] at heq
      exact hne (List.cons.inj heq).1

end Directories

end FileNode

end RouteTable
