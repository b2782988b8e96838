import RouteTable.Files.Lookup

/-!
Where paths lead. A path of two parts leads on from the directory that its first part leads to, and
more links than were followed make no difference.
-/

namespace RouteTable

theorem FileNode.find?_append (node : FileNode) (first second : Location) :
    node.find? (first ++ second) = (node.find? first).bind (·.find? second) := by
  induction first generalizing node with
  | nil => rfl
  | cons name first ih =>
    rw [List.cons_append, FileNode.find?, FileNode.find?, Option.bind_assoc]
    congr 1
    funext child
    exact ih child

namespace FileSystem

variable {fs : FileSystem} {links : Nat} {location : Location} {ending : Path.Ending}
  {name : FileName} {rest : List FileName}

/-- The entry under a name in the directory at a location is what is at the location of both. -/
theorem lookup_entriesAt (fs : FileSystem) (location : Location) (name : FileName) :
    (fs.entriesAt location).lookup name = fs.root.find? (location ++ [name]) := by
  rw [FileNode.find?_append, entriesAt]
  rcases hnode : fs.root.find? location with _ | (contents | target | inside)
  · rfl
  · rfl
  · rfl
  · simp only [Option.bind_some, FileNode.find?, FileNode.child?]
    cases inside.lookup name <;> rfl

section Steps

theorem follow_nil : fs.follow false links location ending [] =
    .ok (.directory location (fs.entriesAt location)) := by
  rw [follow]

theorem follow_up : fs.follow false links location ending (upName :: rest) =
    fs.follow false links location.dropLast ending rest := by
  rw [follow, if_pos rfl]

variable (hup : name ≠ upName) (hlength : name.length ≤ maximalName)
include hup hlength

theorem follow_missing (hnode : fs.root.find? (location ++ [name]) = none) :
    fs.follow false links location ending (name :: rest) =
      if rest.isEmpty ∧ ending ≠ .point then .ok (.vacant (location ++ [name]))
      else .error .notFound := by
  rw [follow, if_neg hup, if_neg (by simp), if_neg (Nat.not_lt.2 hlength), lookup_entriesAt, hnode]

theorem follow_file {contents : List UInt8}
    (hnode : fs.root.find? (location ++ [name]) = some (.file contents)) :
    fs.follow false links location ending (name :: rest) =
      if rest.isEmpty ∧ ending = .name then .ok (.file (location ++ [name]) contents)
      else .error .notDirectory := by
  rw [follow, if_neg hup, if_neg (by simp), if_neg (Nat.not_lt.2 hlength), lookup_entriesAt, hnode]

theorem follow_directory {inside : FileEntries}
    (hnode : fs.root.find? (location ++ [name]) = some (.directory inside)) :
    fs.follow false links location ending (name :: rest) =
      fs.follow false links (location ++ [name]) ending rest := by
  rw [follow, if_neg hup, if_neg (by simp), if_neg (Nat.not_lt.2 hlength), lookup_entriesAt, hnode]

theorem follow_link {target : Path}
    (hnode : fs.root.find? (location ++ [name]) = some (.link target)) :
    fs.follow false (links + 1) location ending (name :: rest) =
      fs.follow false links (if target.isAbsolute then [] else location)
        (if rest.isEmpty then ending.after target.ending else ending) (target.names ++ rest) := by
  rw [follow, if_neg hup, if_neg (by simp), if_neg (Nat.not_lt.2 hlength), lookup_entriesAt, hnode]

theorem follow_link_zero {target : Path}
    (hnode : fs.root.find? (location ++ [name]) = some (.link target)) :
    fs.follow false 0 location ending (name :: rest) = .error .tooManyLinks := by
  rw [follow, if_neg hup, if_neg (by simp), if_neg (Nat.not_lt.2 hlength), lookup_entriesAt, hnode]

end Steps

theorem follow_tooLong (hup : name ≠ upName) (hlength : maximalName < name.length) :
    fs.follow false links location ending (name :: rest) = .error .nameTooLong := by
  rw [follow, if_neg hup, if_neg (by simp), if_pos hlength]

/-- Whether a path leads from a location to something, and through how many links. -/
inductive Leads (fs : FileSystem) :
    Location → Path.Ending → List FileName → Nat → Found → Prop where
  | here {location : Location} {ending : Path.Ending} :
      Leads fs location ending [] 0 (.directory location (fs.entriesAt location))
  | up {location : Location} {ending : Path.Ending} {rest : List FileName} {n : Nat}
      {found : Found} (h : Leads fs location.dropLast ending rest n found) :
      Leads fs location ending (upName :: rest) n found
  | vacant {location : Location} {ending : Path.Ending} {name : FileName} (hup : name ≠ upName)
      (hlength : name.length ≤ maximalName)
      (hnode : fs.root.find? (location ++ [name]) = none) (hending : ending ≠ .point) :
      Leads fs location ending [name] 0 (.vacant (location ++ [name]))
  | file {location : Location} {name : FileName} {contents : List UInt8} (hup : name ≠ upName)
      (hlength : name.length ≤ maximalName)
      (hnode : fs.root.find? (location ++ [name]) = some (.file contents)) :
      Leads fs location .name [name] 0 (.file (location ++ [name]) contents)
  | directory {location : Location} {ending : Path.Ending} {name : FileName}
      {rest : List FileName} {n : Nat} {found : Found} {inside : FileEntries}
      (hup : name ≠ upName) (hlength : name.length ≤ maximalName)
      (hnode : fs.root.find? (location ++ [name]) = some (.directory inside))
      (h : Leads fs (location ++ [name]) ending rest n found) :
      Leads fs location ending (name :: rest) n found
  | link {location : Location} {ending : Path.Ending} {name : FileName} {rest : List FileName}
      {n : Nat} {found : Found} {target : Path} (hup : name ≠ upName)
      (hlength : name.length ≤ maximalName)
      (hnode : fs.root.find? (location ++ [name]) = some (.link target))
      (h : Leads fs (if target.isAbsolute then [] else location)
        (if rest.isEmpty then ending.after target.ending else ending) (target.names ++ rest) n
          found) :
      Leads fs location ending (name :: rest) (n + 1) found

/-- A path is followed to where it leads, if as many links are allowed as it goes through. -/
theorem follow_eq_ok_iff {names : List FileName} {found : Found} :
    fs.follow false links location ending names = .ok found ↔
      ∃ n ≤ links, fs.Leads location ending names n found := by
  constructor
  · intro h
    fun_induction follow fs false links location ending names with
    | case1 =>
      cases h
      exact ⟨0, Nat.zero_le _, .here⟩
    | case2 _ _ _ _ ih =>
      obtain ⟨n, hn, hleads⟩ := ih h
      exact ⟨n, hn, .up hleads⟩
    | case3 => cases h
    | case4 => cases h
    | case5 _ _ _ _ _ hup _ hlength hnode hend =>
      cases h
      rw [lookup_entriesAt] at hnode
      obtain rfl := List.isEmpty_iff.1 hend.1
      exact ⟨0, Nat.zero_le _, .vacant hup (Nat.le_of_not_lt hlength) hnode hend.2⟩
    | case6 => cases h
    | case7 _ _ _ _ _ hup _ hlength _ hnode hend =>
      cases h
      rw [lookup_entriesAt] at hnode
      obtain ⟨hrest, rfl⟩ := hend
      obtain rfl := List.isEmpty_iff.1 hrest
      exact ⟨0, Nat.zero_le _, .file hup (Nat.le_of_not_lt hlength) hnode⟩
    | case8 => cases h
    | case9 _ _ _ _ _ hup _ hlength _ hnode ih =>
      rw [lookup_entriesAt] at hnode
      obtain ⟨n, hn, hleads⟩ := ih h
      exact ⟨n, hn, .directory hup (Nat.le_of_not_lt hlength) hnode hleads⟩
    | case10 => cases h
    | case11 _ _ _ _ hup _ hlength _ hnode links ih =>
      rw [lookup_entriesAt] at hnode
      obtain ⟨n, hn, hleads⟩ := ih h
      exact ⟨n + 1, Nat.succ_le_succ hn, .link hup (Nat.le_of_not_lt hlength) hnode hleads⟩
  · rintro ⟨n, hn, hleads⟩
    induction hleads generalizing links with
    | here => exact follow_nil
    | up _ ih =>
      rw [follow_up]
      exact ih hn
    | vacant hup hlength hnode hending =>
      rw [follow_missing hup hlength hnode, if_pos ⟨rfl, hending⟩]
    | file hup hlength hnode =>
      rw [follow_file hup hlength hnode, if_pos ⟨rfl, rfl⟩]
    | directory hup hlength hnode _ ih =>
      rw [follow_directory hup hlength hnode]
      exact ih hn
    | link hup hlength hnode _ ih =>
      obtain ⟨links, rfl⟩ := Nat.exists_eq_add_of_le' (Nat.le_trans (Nat.succ_pos _) hn)
      rw [follow_link hup hlength hnode]
      exact ih (Nat.le_of_succ_le_succ hn)

/-- A path is found by following its names, unless the system refuses it. -/
theorem findFor_eq_ok_iff {making : Bool} {path : Path} {found : Found} :
    findFor making fs path = .ok found ↔
      (path.bytes.contains 0 = false ∧ path.isEmpty = false ∧ path.bytes.length < maximalPath) ∧
        fs.follow making maximalLinks (fs.start path) path.ending path.names = .ok found := by
  rw [findFor]
  split
  · simp_all
  · split
    · simp_all
    · split
      · rename_i hlong
        simp [Nat.not_lt.2 hlong]
      · simp_all

/-- What a path leads to is found, unless the system refuses the path. -/
theorem find_of_leads {path : Path} {found : Found} {n : Nat}
    (husable : path.bytes.contains 0 = false ∧ path.isEmpty = false ∧
      path.bytes.length < maximalPath)
    (hn : n ≤ maximalLinks) (h : fs.Leads (fs.start path) path.ending path.names n found) :
    fs.find path = .ok found :=
  findFor_eq_ok_iff.2 ⟨husable, follow_eq_ok_iff.2 ⟨n, hn, h⟩⟩

/-- Nothing is found behind a name that is missing. -/
theorem find_behind_missing {path : Path}
    (husable : path.bytes.contains 0 = false ∧ path.isEmpty = false ∧
      path.bytes.length < maximalPath)
    (hnames : path.names = name :: rest) (hrest : rest ≠ []) (hup : name ≠ upName)
    (hlength : name.length ≤ maximalName)
    (hnode : fs.root.find? (fs.start path ++ [name]) = none) : fs.find path = .error .notFound := by
  obtain ⟨hzero, hempty, hshort⟩ := husable
  rw [find, findFor, hzero, hempty, if_neg Bool.false_ne_true, if_neg Bool.false_ne_true,
    if_neg (Nat.not_le.2 hshort), hnames, follow_missing hup hlength hnode]
  exact if_neg fun h => hrest (List.isEmpty_iff.1 h.1)

/-- A file that is found is not read as a text if its bytes are none. -/
theorem readText_eq_notText {path : Path} {contents : List UInt8}
    (h : fs.find path = .ok (.file location contents))
    (hdecode : Text.Utf8.decode? contents = none) :
    fs.readText path = .error .notText := by
  rw [readText, read, h]
  dsimp only [bind, Except.bind]
  rw [hdecode]

/-- A path leads to one thing at most. -/
theorem Leads.unique {names : List FileName} {m n : Nat} {found found' : Found}
    (h : fs.Leads location ending names m found) (h' : fs.Leads location ending names n found') :
    found = found' := by
  have hfound := follow_eq_ok_iff.2 ⟨m, Nat.le_add_right m n, h⟩
  have hfound' := follow_eq_ok_iff.2 ⟨n, Nat.le_add_left n m, h'⟩
  exact Except.ok.inj (hfound.symm.trans hfound')

/-- A path to a file ends with a name. -/
theorem Leads.ending_eq {names : List FileName} {n : Nat} {found : Found} {location' : Location}
    {contents : List UInt8} (h : fs.Leads location ending names n found)
    (hfile : found = .file location' contents) : ending = .name := by
  induction h with
  | here => cases hfile
  | up _ ih => exact ih hfile
  | vacant => cases hfile
  | file => rfl
  | directory _ _ _ _ ih => exact ih hfile
  | @link _ ending _ rest _ _ target _ _ _ _ ih =>
    have hafter := ih hfile
    split at hafter
    · generalize target.ending = ending' at hafter
      cases ending <;> cases ending' <;> cases hafter
      rfl
    · exact hafter

/-- From the directory that a path leads to, another path leads on. -/
theorem Leads.append {first second : List FileName} {m n : Nat} {directory : Found}
    {location' : Location} {found : Found} {ending' : Path.Ending}
    (h : fs.Leads location ending' first m directory)
    (hdirectory : directory = .directory location' (fs.entriesAt location'))
    (hsecond : fs.Leads location' ending second n found) (hne : second ≠ []) :
    fs.Leads location ending (first ++ second) (m + n) found := by
  induction h with
  | here =>
    cases hdirectory
    rw [Nat.zero_add]
    exact hsecond
  | up _ ih => exact .up (ih hdirectory)
  | vacant => cases hdirectory
  | file => cases hdirectory
  | directory hup hlength hnode _ ih => exact .directory hup hlength hnode (ih hdirectory)
  | @link _ _ _ rest _ _ _ hup hlength hnode _ ih =>
    rw [List.cons_append, Nat.add_right_comm]
    refine .link hup hlength hnode ?_
    have hbehind : (rest ++ second).isEmpty = false := by
      simp [List.isEmpty_eq_false_iff, hne]
    rw [hbehind, if_neg Bool.false_ne_true, ← List.append_assoc]
    exact ih hdirectory

/-- A path of two parts leads on from the directory that its first part leads to, however that
ends. -/
theorem Leads.split {first second : List FileName} {n : Nat} {found : Found}
    (h : fs.Leads location ending (first ++ second) n found) (hne : second ≠ []) :
    ∃ l m location', n = l + m ∧
      (∀ ending', fs.Leads location ending' first l
        (.directory location' (fs.entriesAt location'))) ∧
      fs.Leads location' ending second m found := by
  generalize hnames : first ++ second = names at h
  -- In each case, either the first part is empty, or its head is the name that is followed.
  induction h generalizing first with
  | here => exact absurd (List.append_eq_nil_iff.1 hnames).2 hne
  | @up location ending rest n found h ih =>
    rcases first with _ | ⟨name, first⟩
    · obtain rfl : second = _ := hnames
      exact ⟨0, n, location, (Nat.zero_add n).symm, fun _ => .here, .up h⟩
    · obtain ⟨rfl, rfl⟩ := List.cons.inj hnames
      obtain ⟨l, m, location', hn, hfirst, hsecond⟩ := ih rfl
      exact ⟨l, m, location', hn, fun ending' => .up (hfirst ending'), hsecond⟩
  | @vacant location ending name hup hlength hnode hending =>
    rcases first with _ | ⟨name', first⟩
    · obtain rfl : second = _ := hnames
      exact ⟨0, 0, location, rfl, fun _ => .here, .vacant hup hlength hnode hending⟩
    · obtain ⟨-, hrest⟩ := List.cons.inj hnames
      exact absurd (List.append_eq_nil_iff.1 hrest).2 hne
  | @file location name contents hup hlength hnode =>
    rcases first with _ | ⟨name', first⟩
    · obtain rfl : second = _ := hnames
      exact ⟨0, 0, location, rfl, fun _ => .here, .file hup hlength hnode⟩
    · obtain ⟨-, hrest⟩ := List.cons.inj hnames
      exact absurd (List.append_eq_nil_iff.1 hrest).2 hne
  | @directory location ending name rest n found inside hup hlength hnode h ih =>
    rcases first with _ | ⟨name', first⟩
    · obtain rfl : second = _ := hnames
      exact ⟨0, n, location, (Nat.zero_add n).symm, fun _ => .here,
        .directory hup hlength hnode h⟩
    · obtain ⟨rfl, rfl⟩ := List.cons.inj hnames
      obtain ⟨l, m, location', hn, hfirst, hsecond⟩ := ih rfl
      exact ⟨l, m, location', hn,
        fun ending' => .directory hup hlength hnode (hfirst ending'), hsecond⟩
  | @link location ending name rest n found target hup hlength hnode h ih =>
    rcases first with _ | ⟨name', first⟩
    · obtain rfl : second = _ := hnames
      exact ⟨0, n + 1, location, (Nat.zero_add _).symm, fun _ => .here,
        .link hup hlength hnode h⟩
    · obtain ⟨rfl, rfl⟩ := List.cons.inj hnames
      have hbehind : (first.append second).isEmpty = false := by
        simp [hne]
      obtain ⟨l, m, location', hn, hfirst, hsecond⟩ := ih (List.append_assoc _ _ _)
      rw [hbehind, if_neg Bool.false_ne_true] at hsecond
      refine ⟨l + 1, m, location', ?_, fun ending' => ?_, hsecond⟩
      · rw [hn, Nat.add_right_comm]
      · exact .link hup hlength hnode (hfirst _)

end FileSystem

end RouteTable
