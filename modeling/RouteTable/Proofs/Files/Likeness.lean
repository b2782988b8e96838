import RouteTable.Proofs.Files.Locating

/-!
File systems that are alike at the locations that a path is looked up at. The path leads to the same
in both, except that a directory at its end may have other entries.
-/

namespace RouteTable

def FileNode.bare : FileNode → FileNode
  | .directory _ => .directory []
  | node => node

def Found.bare : Found → Found
  | .directory location _ => .directory location []
  | found => found

theorem FileNode.bare_sorted (node : FileNode) : node.sorted.bare = node.bare := by
  cases node with
  | file contents => rfl
  | link target => rfl
  | directory entries => rw [sorted_directory, bare, bare]

/-- The cases of two paths that lead to the same. -/
theorem Found.cases_of_map_bare_eq {first second : Except FileFault Found}
    (h : first.map bare = second.map bare) :
    (∃ fault, first = .error fault ∧ second = .error fault) ∨
      (∃ location contents, first = .ok (.file location contents) ∧
        second = .ok (.file location contents)) ∨
      (∃ location inside inside', first = .ok (.directory location inside) ∧
        second = .ok (.directory location inside')) ∨
      ∃ location, first = .ok (.vacant location) ∧ second = .ok (.vacant location) := by
  rcases first with fault | found
  · rcases second with fault' | found'
    · cases h
      exact .inl ⟨fault, rfl, rfl⟩
    · cases h
  · rcases second with fault' | found'
    · cases h
    · have hbare := Except.ok.inj h
      cases found with
      | file location contents =>
        cases found' with
        | file =>
          cases hbare
          exact .inr (.inl ⟨location, contents, rfl, rfl⟩)
        | directory => cases hbare
        | vacant => cases hbare
      | directory location inside =>
        cases found' with
        | file => cases hbare
        | directory location' inside' =>
          cases hbare
          exact .inr (.inr (.inl ⟨location, inside, inside', rfl, rfl⟩))
        | vacant => cases hbare
      | vacant location =>
        cases found' with
        | file => cases hbare
        | directory => cases hbare
        | vacant =>
          cases hbare
          exact .inr (.inr (.inr ⟨location, rfl, rfl⟩))

namespace FileSystem

variable {fs fs' : FileSystem} {location : Location} {links : Nat} {ending : Path.Ending}
  {names : List FileName}

/-- Whether two file systems have the same at a location: the same file, the same link, a directory
each or nothing. -/
def Alike (fs fs' : FileSystem) (location : Location) : Prop :=
  (fs.root.find? location).map FileNode.bare = (fs'.root.find? location).map FileNode.bare

namespace Alike

theorem symm (h : fs.Alike fs' location) : fs'.Alike fs location :=
  Eq.symm h

theorem trans {fs'' : FileSystem} (h : fs.Alike fs' location) (h' : fs'.Alike fs'' location) :
    fs.Alike fs'' location :=
  Eq.trans h h'

theorem find?_none (h : fs.Alike fs' location) (hnode : fs.root.find? location = none) :
    fs'.root.find? location = none := by
  rw [Alike, hnode] at h
  exact Option.map_eq_none_iff.1 h.symm

theorem find?_file {contents : List UInt8} (h : fs.Alike fs' location)
    (hnode : fs.root.find? location = some (.file contents)) :
    fs'.root.find? location = some (.file contents) := by
  rw [Alike, hnode] at h
  obtain ⟨node, hnode', hbare⟩ := Option.map_eq_some_iff.1 h.symm
  rw [hnode']
  cases node with
  | file => exact congrArg some hbare
  | link => cases hbare
  | directory => cases hbare

theorem find?_link {target : Path} (h : fs.Alike fs' location)
    (hnode : fs.root.find? location = some (.link target)) :
    fs'.root.find? location = some (.link target) := by
  rw [Alike, hnode] at h
  obtain ⟨node, hnode', hbare⟩ := Option.map_eq_some_iff.1 h.symm
  rw [hnode']
  cases node with
  | file => cases hbare
  | link => exact congrArg some hbare
  | directory => cases hbare

theorem hasDirectory (h : fs.Alike fs' location) (hdirectory : fs.HasDirectory location) :
    fs'.HasDirectory location := by
  obtain ⟨inside, hnode⟩ := hdirectory
  rw [Alike, hnode] at h
  obtain ⟨node, hnode', hbare⟩ := Option.map_eq_some_iff.1 h.symm
  cases node with
  | file => cases hbare
  | link => cases hbare
  | directory inside' => exact ⟨inside', hnode'⟩

end Alike

/-- Whether following the names of a path from a location on looks something up at another. -/
inductive LooksAt (fs : FileSystem) : Location → List FileName → Location → Prop where
  | here {location : Location} {name : FileName} {rest : List FileName} (hup : name ≠ upName) :
      LooksAt fs location (name :: rest) (location ++ [name])
  | up {location : Location} {rest : List FileName} {seen : Location}
      (h : LooksAt fs location.dropLast rest seen) : LooksAt fs location (upName :: rest) seen
  | directory {location : Location} {name : FileName} {rest : List FileName} {seen : Location}
      (hup : name ≠ upName) (hdirectory : fs.HasDirectory (location ++ [name]))
      (h : LooksAt fs (location ++ [name]) rest seen) : LooksAt fs location (name :: rest) seen
  | link {location : Location} {name : FileName} {rest : List FileName} {seen : Location}
      {target : Path} (hup : name ≠ upName)
      (hnode : fs.root.find? (location ++ [name]) = some (.link target))
      (h : LooksAt fs (if target.isAbsolute then [] else location) (target.names ++ rest) seen) :
      LooksAt fs location (name :: rest) seen

/-- What is looked at behind a directory is looked at on a path through it. -/
theorem LooksAt.of_leads {first second : List FileName} {n : Nat} {directory : Found}
    {location' seen : Location} (h : fs.Leads location ending first n directory)
    (hdirectory : directory = .directory location' (fs.entriesAt location'))
    (hsecond : fs.LooksAt location' second seen) : fs.LooksAt location (first ++ second) seen := by
  induction h with
  | here =>
    cases hdirectory
    exact hsecond
  | up _ ih => exact .up (ih hdirectory)
  | vacant => cases hdirectory
  | file => cases hdirectory
  | directory hup _ hnode _ ih => exact .directory hup ⟨_, hnode⟩ (ih hdirectory)
  | link hup _ hnode _ ih =>
    rw [List.cons_append]
    refine .link hup hnode ?_
    rw [← List.append_assoc]
    exact ih hdirectory

/-- Paths go through the same locations in file systems that are alike there. -/
theorem LooksAt.congr {seen : Location}
    (h : ∀ seen, fs.LooksAt location names seen → fs.Alike fs' seen)
    (hseen : fs'.LooksAt location names seen) : fs.LooksAt location names seen := by
  induction hseen with
  | here hup => exact .here hup
  | up _ ih => exact .up (ih fun seen hseen => h seen (.up hseen))
  | directory hup hdirectory _ ih =>
    have hdirectory := (h _ (.here hup)).symm.hasDirectory hdirectory
    exact .directory hup hdirectory (ih fun seen hseen => h seen (.directory hup hdirectory hseen))
  | link hup hnode _ ih =>
    have hnode := (h _ (.here hup)).symm.find?_link hnode
    exact .link hup hnode (ih fun seen hseen => h seen (.link hup hnode hseen))

/-- A path leads to the same in file systems that are alike where it is looked up. -/
theorem follow_congr (h : ∀ seen, fs.LooksAt location names seen → fs.Alike fs' seen) :
    (fs.follow false links location ending names).map Found.bare =
      (fs'.follow false links location ending names).map Found.bare := by
  fun_induction follow fs false links location ending names with
  | case1 =>
    rw [follow_nil]
    rfl
  | case2 _ _ _ _ ih =>
    rw [follow_up]
    exact ih fun seen hseen => h seen (.up hseen)
  | case3 _ _ _ _ _ _ hmaking => exact absurd hmaking.1 Bool.false_ne_true
  | case4 _ _ _ _ _ hup _ hlength => rw [follow_tooLong hup hlength]
  | case5 _ _ _ _ _ hup _ hlength hnode hend =>
    rw [lookup_entriesAt] at hnode
    have hnode' := (h _ (.here hup)).find?_none hnode
    rw [follow_missing hup (Nat.le_of_not_lt hlength) hnode', if_pos hend]
  | case6 _ _ _ _ _ hup _ hlength hnode hend =>
    rw [lookup_entriesAt] at hnode
    have hnode' := (h _ (.here hup)).find?_none hnode
    rw [follow_missing hup (Nat.le_of_not_lt hlength) hnode', if_neg hend]
  | case7 _ _ _ _ _ hup _ hlength _ hnode hend =>
    rw [lookup_entriesAt] at hnode
    have hnode' := (h _ (.here hup)).find?_file hnode
    rw [follow_file hup (Nat.le_of_not_lt hlength) hnode', if_pos hend]
  | case8 _ _ _ _ _ hup _ hlength _ hnode hend =>
    rw [lookup_entriesAt] at hnode
    have hnode' := (h _ (.here hup)).find?_file hnode
    rw [follow_file hup (Nat.le_of_not_lt hlength) hnode', if_neg hend]
  | case9 _ _ _ _ _ hup _ hlength _ hnode ih =>
    rw [lookup_entriesAt] at hnode
    have hdirectory : fs.HasDirectory _ := ⟨_, hnode⟩
    obtain ⟨inside', hnode'⟩ := (h _ (.here hup)).hasDirectory hdirectory
    rw [follow_directory hup (Nat.le_of_not_lt hlength) hnode']
    exact ih fun seen hseen => h seen (.directory hup hdirectory hseen)
  | case10 _ _ _ _ hup _ hlength _ hnode =>
    rw [lookup_entriesAt] at hnode
    have hnode' := (h _ (.here hup)).find?_link hnode
    rw [follow_link_zero hup (Nat.le_of_not_lt hlength) hnode']
  | case11 _ _ _ _ hup _ hlength _ hnode links ih =>
    rw [lookup_entriesAt] at hnode
    have hnode' := (h _ (.here hup)).find?_link hnode
    rw [follow_link hup (Nat.le_of_not_lt hlength) hnode']
    exact ih fun seen hseen => h seen (.link hup hnode hseen)

/-- A path to a file leads to it in every file system where it is followed to the same. -/
theorem Leads.file_congr {n : Nat} {location' : Location} {contents : List UInt8}
    (hleads : fs.Leads location ending names n (.file location' contents))
    (h : ∀ links, (fs.follow false links location ending names).map Found.bare =
      (fs'.follow false links location ending names).map Found.bare) :
    ∃ m, fs'.Leads location ending names m (.file location' contents) := by
  have hfollow := follow_eq_ok_iff.2 ⟨n, Nat.le_refl n, hleads⟩
  rcases Found.cases_of_map_bare_eq (h n) with ⟨_, herror, -⟩ | ⟨_, _, hfile, hfile'⟩ |
    ⟨_, _, _, hdirectory, -⟩ | ⟨_, hvacant, -⟩
  · cases hfollow.symm.trans herror
  · cases hfollow.symm.trans hfile
    obtain ⟨m, -, hleads'⟩ := follow_eq_ok_iff.1 hfile'
    exact ⟨m, hleads'⟩
  · cases hfollow.symm.trans hdirectory
  · cases hfollow.symm.trans hvacant

def sorted (fs : FileSystem) : FileSystem :=
  { fs with root := fs.root.sorted }

theorem WellFormed.alike_sorted (h : fs.WellFormed) (location : Location) :
    fs.Alike fs.sorted location := by
  rw [Alike, sorted, h.tree.find?_sorted, Option.map_map]
  congr 1
  funext node
  exact (FileNode.bare_sorted node).symm

theorem WellFormed.sorted (h : fs.WellFormed) : fs.sorted.WellFormed where
  tree := h.tree.sorted
  workingDirectory := (h.alike_sorted _).hasDirectory h.workingDirectory

theorem WellFormed.looksAt_sorted_iff (h : fs.WellFormed) {seen : Location} :
    fs.sorted.LooksAt location names seen ↔ fs.LooksAt location names seen :=
  ⟨.congr fun seen _ => h.alike_sorted seen, .congr fun seen _ => (h.alike_sorted seen).symm⟩

/-- In a sorted file system, entries come in the order of their names. -/
theorem WellFormed.pairwise_entriesAt_sorted (h : fs.WellFormed)
    (hdirectory : fs.sorted.HasDirectory location) :
    (fs.sorted.entriesAt location).Pairwise fun a b => a.1 < b.1 := by
  have hdirectory := ((h.alike_sorted location).symm.hasDirectory hdirectory)
  have hsorted : fs.sorted.root.find? location = some (.directory _) :=
    (h.tree.find?_sorted location).trans (congrArg _ hdirectory.find?)
  rw [entriesAt_of_find? hsorted]
  apply pairwise_lt_sortByKey
  rw [FileNode.map_fst_sortedEntries]
  exact (h.entriesAt hdirectory).of_directory.1

theorem WellFormed.follow_sorted (h : fs.WellFormed) :
    (fs.sorted.follow false links location ending names).map Found.bare =
      (fs.follow false links location ending names).map Found.bare :=
  (follow_congr fun seen _ => h.alike_sorted seen).symm

/-- Sorting changes nothing about the files that paths lead to. -/
theorem WellFormed.leads_sorted_file_iff (h : fs.WellFormed) {location' : Location}
    {contents : List UInt8} :
    (∃ n, fs.sorted.Leads location ending names n (.file location' contents)) ↔
      ∃ n, fs.Leads location ending names n (.file location' contents) := by
  constructor
  · rintro ⟨n, hleads⟩
    exact hleads.file_congr fun _ => h.follow_sorted
  · rintro ⟨n, hleads⟩
    exact hleads.file_congr fun _ => h.follow_sorted.symm

end FileSystem

end RouteTable
