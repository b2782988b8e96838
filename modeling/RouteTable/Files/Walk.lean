import RouteTable.Files.Lookup
import RouteTable.Reporting

/-!
Walking through a directory and all that is in it, through links as well. A link to a directory that
the walk is in already is a fault, so that every walk ends.
-/

namespace RouteTable

inductive WalkFault where
  /-- A link could not be followed. -/
  | broken (path : Path) (fault : FileFault)
  /-- A link leads back to a directory that it is in. -/
  | loop (path ancestor : Path)

namespace WalkFault

def message : WalkFault → String
  | .broken path fault => "IO error for operation on " ++ path.shown ++ ": " ++ fault.message
  | .loop path ancestor =>
      "File system loop found: " ++ path.shown ++ " points to an ancestor " ++ ancestor.shown

def causes (fault : WalkFault) : List String :=
  match fault with
  | .broken _ inner => [fault.message, inner.message]
  | .loop .. => [fault.message]

end WalkFault

/-- A walk reports the files it finds, by their names from its base on. -/
abbrev Walk := Reporting (List FileName) WalkFault Unit

namespace Walk

/-- What stays the same on a walk. -/
structure Setting where
  fs : FileSystem
  base : Location
  /-- Whether names with a point in front are looked at. -/
  hidden : Bool

def Setting.shows (setting : Setting) (name : FileName) : Bool :=
  setting.hidden || !name.isHidden

def Setting.path (setting : Setting) (names : List FileName) : Path :=
  Location.path (setting.base ++ names)

/-- Whether the system refuses the path of what has these names, however short the names are. -/
def Setting.isTooLong (setting : Setting) (names : List FileName) : Bool :=
  FileSystem.maximalPath ≤ (setting.path names).bytes.length

/-- What the path of all these names leads to. The links on the way to the last name count. -/
def Setting.find (setting : Setting) (names : List FileName) : Except FileFault Found :=
  if setting.isTooLong names then .error .nameTooLong
  else setting.fs.follow false FileSystem.maximalLinks [] .name (setting.base ++ names)

/-- A directory that a walk is in, and the names that led to it. -/
structure Place where
  location : Location
  names : List FileName

def namesOf (location : Location) : List Place → List FileName
  | [] => []
  | place :: rest => if place.location = location then place.names else namesOf location rest

/-- What a walk meets under a name, once a link is followed. -/
inductive Met where
  | file
  | directory (location : Location) (inside : FileEntries)

/-- What a walk in the directory at `place` meets under a name. A link is followed at once, whether
or not its name is looked at. -/
def Setting.meet (setting : Setting) (fresh : List Location) (enclosing : List Place)
    (place : Place) (name : FileName) : FileNode → Except WalkFault Met
  | .file _ => .ok .file
  | .directory inside => .ok (.directory (place.location ++ [name]) inside)
  | .link _ =>
    let names := place.names ++ [name]
    match setting.find names with
    | .error fault => .error (.broken (setting.path names) fault)
    | .ok (.vacant _) => .error (.broken (setting.path names) .notFound)
    | .ok (.file ..) => .ok .file
    | .ok (.directory location inside) =>
      if location ∈ fresh then .ok (.directory location inside)
      else .error (.loop (setting.path names) (setting.path (namesOf location enclosing)))

theorem length_erase_lt {location : Location} {fresh : List Location} (h : location ∈ fresh) :
    (fresh.erase location).length < fresh.length := by
  rw [List.length_erase_of_mem h]
  exact Nat.sub_lt (List.length_pos_of_mem h) Nat.one_pos

theorem erase_or_smaller (location : Location) (fresh : List Location) {small large : Nat}
    (h : small < large) :
    Prod.Lex (· < ·) (· < ·) ((fresh.erase location).length, small) (fresh.length, large) := by
  rcases Nat.lt_or_eq_of_le (List.length_erase_le (a := location) (l := fresh)) with hlt | heq
  · exact Prod.Lex.left _ _ hlt
  · rw [heq]
    exact Prod.Lex.right _ h

/-- A directory that is met is fresh, or smaller than the one it is in. -/
theorem Setting.smaller_of_meet {setting : Setting} {fresh : List Location}
    {enclosing : List Place} {place : Place} {name : FileName} {node : FileNode}
    {location : Location} {inside : FileEntries} (rest : FileEntries)
    (h : setting.meet fresh enclosing place name node = .ok (.directory location inside)) :
    Prod.Lex (· < ·) (· < ·) ((fresh.erase location).length, sizeOf inside)
      (fresh.length, sizeOf ((name, node) :: rest)) := by
  cases node with
  | file contents => cases h
  | directory entries =>
    cases h
    exact erase_or_smaller _ _ (by simp +arith)
  | link target =>
    simp only [Setting.meet] at h
    split at h
    · cases h
    · cases h
    · cases h
    · split at h
      · cases h
        exact Prod.Lex.left _ _ (length_erase_lt ‹_›)
      · cases h

/-- Walks through entries of the directory at `place`. The directories around it are `enclosing`,
the innermost first, and `fresh` are those that the walk is not in. -/
def entries (setting : Setting) (fresh : List Location) (enclosing : List Place) (place : Place)
    (remaining : FileEntries) : Walk :=
  match remaining with
  | [] => pure ()
  | (name, node) :: rest =>
    let names := place.names ++ [name]
    let visited : Walk :=
      match _hmeet : setting.meet fresh enclosing place name node with
      | .error fault => .fail fault
      | .ok .file => if setting.shows name then .report names else pure ()
      | .ok (.directory location inside) =>
        if setting.shows name then
          if setting.isTooLong names then .fail (.broken (setting.path names) .nameTooLong)
          else
            entries setting (fresh.erase location) (⟨location, names⟩ :: enclosing)
              ⟨location, names⟩ inside
        else pure ()
    visited >>= fun _ => entries setting fresh enclosing place rest
termination_by (fresh.length, sizeOf remaining)
decreasing_by
  · exact Setting.smaller_of_meet rest _hmeet
  · exact Prod.Lex.right _ (by simp +arith)

end Walk

/-- Walks through a directory, in the order of names. -/
def FileSystem.walk (fs : FileSystem) (hidden : Bool) (base : Location) : Walk :=
  let fs := { fs with root := fs.root.sorted }
  let start : Walk.Place := ⟨base, []⟩
  Walk.entries ⟨fs, base, hidden⟩ ((fs.root.directories []).erase base) [start] start
    (fs.entriesAt base)

end RouteTable
