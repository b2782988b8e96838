import RouteTable.Proofs.Files.Likeness

/-!
File systems in which directories have been made and files written. Whatever paths led to, they
still lead to, but for what is in the files that have been written.
-/

namespace RouteTable

/-- What is at a location before and after directories are made and files written. Only where it is
`written` can a file be new or have other contents. -/
inductive FileNode.Becomes (written : Prop) : Option FileNode → Option FileNode → Prop where
  | nothing : Becomes written none none
  | link {target : Path} : Becomes written (some (.link target)) (some (.link target))
  | directory {inside inside' : FileEntries} :
      Becomes written (some (.directory inside)) (some (.directory inside'))
  | file {contents : List UInt8} : Becomes written (some (.file contents)) (some (.file contents))
  | made {inside : FileEntries} : Becomes written none (some (.directory inside))
  | new {contents : List UInt8} (h : written) : Becomes written none (some (.file contents))
  | rewritten {contents contents' : List UInt8} (h : written) :
      Becomes written (some (.file contents)) (some (.file contents'))

namespace FileNode.Becomes

variable {written written' : Prop} {before middle after : Option FileNode}

theorem of_bare_eq (h : before.map bare = after.map bare) : Becomes written before after := by
  rcases before with _ | (_ | _ | _) <;> rcases after with _ | (_ | _ | _) <;> cases h <;>
    constructor

theorem mono (h : Becomes written before after) (himp : written → written') :
    Becomes written' before after := by
  cases h with
  | new h => exact .new (himp h)
  | rewritten h => exact .rewritten (himp h)
  | _ => constructor

theorem trans (h : Becomes written before middle) (h' : Becomes written middle after) :
    Becomes written before after := by
  cases h with
  | nothing => exact h'
  | link => exact h'
  | file => exact h'
  | directory =>
    cases h'
    exact .directory
  | made =>
    cases h'
    exact .made
  | new h =>
    cases h' <;> exact .new h
  | rewritten h =>
    cases h' <;> exact .rewritten h

theorem sorted (h : Becomes written before after) :
    Becomes written (before.map FileNode.sorted) (after.map FileNode.sorted) := by
  cases h with
  | new h => exact .new h
  | rewritten h => exact .rewritten h
  | _ => constructor

end FileNode.Becomes

namespace FileSystem

/-- Whether one file system comes from another where directories are made, and files written at some
locations. -/
structure Grows (fs fs' : FileSystem) (written : Location → Prop) : Prop where
  workingDirectory : fs'.workingDirectory = fs.workingDirectory
  becomes : ∀ location,
    FileNode.Becomes (written location) (fs.root.find? location) (fs'.root.find? location)

variable {fs fs' fs'' : FileSystem} {written written' : Location → Prop} {location : Location}

namespace Grows

theorem refl (fs : FileSystem) (written : Location → Prop) : fs.Grows fs written where
  workingDirectory := rfl
  becomes _ := .of_bare_eq rfl

theorem mono (h : fs.Grows fs' written) (himp : ∀ location, written location → written' location) :
    fs.Grows fs' written' where
  workingDirectory := h.workingDirectory
  becomes location := (h.becomes location).mono (himp location)

theorem trans (h : fs.Grows fs' written) (h' : fs'.Grows fs'' written) :
    fs.Grows fs'' written where
  workingDirectory := h'.workingDirectory.trans h.workingDirectory
  becomes location := (h.becomes location).trans (h'.becomes location)

theorem sorted (h : fs.Grows fs' written) (hwf : fs.WellFormed) (hwf' : fs'.WellFormed) :
    fs.sorted.Grows fs'.sorted written where
  workingDirectory := h.workingDirectory
  becomes location := by
    have hbecomes := (h.becomes location).sorted
    rwa [← hwf.tree.find?_sorted, ← hwf'.tree.find?_sorted] at hbecomes

variable (h : fs.Grows fs' written)
include h

theorem hasDirectory (hdirectory : fs.HasDirectory location) : fs'.HasDirectory location := by
  obtain ⟨inside, hnode⟩ := hdirectory
  have hbecomes := h.becomes location
  rw [hnode] at hbecomes
  rcases hnode' : fs'.root.find? location with _ | node
  · rw [hnode'] at hbecomes
    cases hbecomes
  · rw [hnode'] at hbecomes
    cases hbecomes
    exact ⟨_, hnode'⟩

/-- No links are made, and none is lost. -/
theorem find?_link_iff {target : Path} :
    fs'.root.find? location = some (.link target) ↔
      fs.root.find? location = some (.link target) := by
  have hbecomes := h.becomes location
  constructor
  · intro hnode'
    rw [hnode'] at hbecomes
    generalize fs.root.find? location = node at hbecomes
    cases hbecomes
    rfl
  · intro hnode
    rw [hnode] at hbecomes
    generalize fs'.root.find? location = node at hbecomes
    cases hbecomes
    rfl

theorem find?_file {contents : List UInt8}
    (hnode : fs.root.find? location = some (.file contents)) :
    ∃ contents', fs'.root.find? location = some (.file contents') ∧
      (¬ written location → contents' = contents) := by
  have hbecomes := h.becomes location
  rw [hnode] at hbecomes
  generalize fs'.root.find? location = node at hbecomes
  cases hbecomes with
  | file => exact ⟨contents, rfl, fun _ => rfl⟩
  | rewritten hwritten => exact ⟨_, rfl, fun hnot => absurd hwritten hnot⟩

/-- A file that is not written was there before. -/
theorem find?_file_of_not {contents : List UInt8}
    (hnode' : fs'.root.find? location = some (.file contents)) (hnot : ¬ written location) :
    fs.root.find? location = some (.file contents) := by
  have hbecomes := h.becomes location
  rw [hnode'] at hbecomes
  generalize fs.root.find? location = node at hbecomes
  cases hbecomes with
  | file => rfl
  | new hwritten => exact absurd hwritten hnot
  | rewritten hwritten => exact absurd hwritten hnot

end Grows

/-- What a path leads to before and after: the same directory, or the same file. -/
inductive Stays (fs' : FileSystem) (written : Location → Prop) : Found → Found → Prop where
  | directory {location : Location} {inside : FileEntries} :
      Stays fs' written (.directory location inside)
        (.directory location (fs'.entriesAt location))
  | file {location : Location} {contents contents' : List UInt8}
      (hsame : ¬ written location → contents' = contents) :
      Stays fs' written (.file location contents) (.file location contents')

section Paths

variable {ending : Path.Ending} {names : List FileName} {n : Nat} {found : Found}

/-- A path that led to something leads there still. -/
theorem Leads.grows (hleads : fs.Leads location ending names n found)
    (h : fs.Grows fs' written) (hfound : ∀ vacant, found ≠ .vacant vacant) :
    ∃ found', fs'.Leads location ending names n found' ∧ fs'.Stays written found found' := by
  induction hleads with
  | here => exact ⟨_, .here, .directory⟩
  | up _ ih =>
    obtain ⟨found', hleads', hstays⟩ := ih hfound
    exact ⟨found', .up hleads', hstays⟩
  | vacant => exact absurd rfl (hfound _)
  | file hup hlength hnode =>
    obtain ⟨contents', hnode', hsame⟩ := h.find?_file hnode
    exact ⟨_, .file hup hlength hnode', .file hsame⟩
  | directory hup hlength hnode _ ih =>
    obtain ⟨inside', hnode'⟩ := h.hasDirectory ⟨_, hnode⟩
    obtain ⟨found', hleads', hstays⟩ := ih hfound
    exact ⟨found', .directory hup hlength hnode' hleads', hstays⟩
  | link hup hlength hnode _ ih =>
    obtain ⟨found', hleads', hstays⟩ := ih hfound
    exact ⟨found', .link hup hlength (h.find?_link_iff.2 hnode) hleads', hstays⟩

theorem Grows.follow {links : Nat} (h : fs.Grows fs' written)
    (hfollow : fs.follow false links location ending names = .ok found)
    (hfound : ∀ vacant, found ≠ .vacant vacant) :
    ∃ found', fs'.follow false links location ending names = .ok found' ∧
      fs'.Stays written found found' := by
  obtain ⟨n, hn, hleads⟩ := follow_eq_ok_iff.1 hfollow
  obtain ⟨found', hleads', hstays⟩ := hleads.grows h hfound
  exact ⟨found', follow_eq_ok_iff.2 ⟨n, hn, hleads'⟩, hstays⟩

theorem Grows.start (h : fs.Grows fs' written) (path : Path) : fs'.start path = fs.start path := by
  rw [FileSystem.start, FileSystem.start, h.workingDirectory]

theorem Grows.find {path : Path} (h : fs.Grows fs' written) (hfind : fs.find path = .ok found)
    (hfound : ∀ vacant, found ≠ .vacant vacant) :
    ∃ found', fs'.find path = .ok found' ∧ fs'.Stays written found found' := by
  obtain ⟨husable, hfollow⟩ := findFor_eq_ok_iff.1 hfind
  obtain ⟨found', hfollow', hstays⟩ := h.follow hfollow hfound
  rw [← h.start] at hfollow'
  exact ⟨found', findFor_eq_ok_iff.2 ⟨husable, hfollow'⟩, hstays⟩

theorem Grows.find_directory {path : Path} {inside : FileEntries} (h : fs.Grows fs' written)
    (hfind : fs.find path = .ok (.directory location inside)) :
    fs'.find path = .ok (.directory location (fs'.entriesAt location)) := by
  obtain ⟨found', hfind', hstays⟩ := h.find hfind (by simp)
  cases hstays
  exact hfind'

theorem Grows.find_file {path : Path} {contents : List UInt8} (h : fs.Grows fs' written)
    (hfind : fs.find path = .ok (.file location contents)) :
    ∃ contents', fs'.find path = .ok (.file location contents') ∧
      (¬ written location → contents' = contents) := by
  obtain ⟨found', hfind', hstays⟩ := h.find hfind (by simp)
  cases hstays with
  | file hsame => exact ⟨_, hfind', hsame⟩

end Paths

end FileSystem

end RouteTable
