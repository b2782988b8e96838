import RouteTable.Proofs.Files.Likeness

/-!
Putting a node into a tree of files. The node is at its location then, every other location keeps
what it has, and a well-formed tree stays so.
-/

namespace RouteTable

namespace FileEntries

variable {entries : FileEntries} {name other : FileName} {node : FileNode}

theorem lookup_put_self (name : FileName) (node : FileNode) (entries : FileEntries) :
    (put name node entries).lookup name = some node := by
  induction entries with
  | nil => simp [put]
  | cons entry rest ih =>
    obtain ⟨n, old⟩ := entry
    rw [put]
    split
    · simp_all
    · rename_i hne
      rw [List.lookup_cons, beq_false_of_ne (Ne.symm hne)]
      exact ih

theorem lookup_put_of_ne (h : other ≠ name) (node : FileNode) (entries : FileEntries) :
    (put name node entries).lookup other = entries.lookup other := by
  induction entries with
  | nil => simp [put, h]
  | cons entry rest ih =>
    obtain ⟨n, old⟩ := entry
    rw [put]
    split
    · rename_i heq
      rw [List.lookup_cons, List.lookup_cons, heq, beq_false_of_ne h]
    · rw [List.lookup_cons, List.lookup_cons, ih]

/-- Putting what is there changes nothing. -/
theorem put_of_lookup (h : entries.lookup name = some node) : put name node entries = entries := by
  induction entries with
  | nil => cases h
  | cons entry rest ih =>
    obtain ⟨n, old⟩ := entry
    rw [put]
    split
    · rename_i heq
      rw [List.lookup_cons, heq, beq_self_eq_true] at h
      rw [Option.some.inj h]
    · rename_i hne
      rw [List.lookup_cons, beq_false_of_ne (Ne.symm hne)] at h
      rw [ih h]

theorem mem_put {entry : FileName × FileNode} (h : entry ∈ put name node entries) :
    entry = (name, node) ∨ entry ∈ entries := by
  induction entries with
  | nil => exact .inl (List.mem_singleton.1 h)
  | cons first rest ih =>
    obtain ⟨n, old⟩ := first
    rw [put] at h
    split at h
    · rename_i heq
      rcases List.mem_cons.1 h with rfl | h
      · exact .inl (heq ▸ rfl)
      · exact .inr (List.mem_cons_of_mem _ h)
    · rcases List.mem_cons.1 h with rfl | h
      · exact .inr List.mem_cons_self
      · exact (ih h).imp_right (List.mem_cons_of_mem _)

theorem nodup_put (h : (entries.map Prod.fst).Nodup) :
    ((put name node entries).map Prod.fst).Nodup := by
  induction entries with
  | nil => exact List.nodup_singleton _
  | cons first rest ih =>
    obtain ⟨n, old⟩ := first
    rw [put]
    split
    · exact h
    · rename_i hne
      obtain ⟨hnotMem, hrest⟩ := List.nodup_cons.1 h
      refine List.nodup_cons.2 ⟨fun hmem => ?_, ih hrest⟩
      obtain ⟨entry, hentry, heq⟩ := List.mem_map.1 hmem
      rcases mem_put hentry with rfl | hentry
      · exact hne heq.symm
      · exact hnotMem (List.mem_map.2 ⟨entry, hentry, heq⟩)

end FileEntries

namespace FileNode

variable {node new : FileNode} {outer location : Location} {name : FileName}

theorem find?_put_append (node new : FileNode) (location inner : Location) :
    (node.put new location).find? (location ++ inner) = new.find? inner := by
  induction location generalizing node with
  | nil => rfl
  | cons name rest ih =>
    obtain ⟨entries, old, hput⟩ : ∃ (entries : FileEntries) (old : FileNode),
        node.put new (name :: rest) =
          .directory (FileEntries.put name (old.put new rest) entries) := ⟨_, _, rfl⟩
    rw [hput, List.cons_append, find?, child?, FileEntries.lookup_put_self, Option.bind_some]
    exact ih old

theorem find?_put_self (node new : FileNode) (location : Location) :
    (node.put new location).find? location = some new := by
  have hself := find?_put_append node new location []
  rwa [List.append_nil] at hself

/-- A node that is put where it is makes no difference. -/
theorem put_of_find? (h : node.find? location = some new) : node.put new location = node := by
  induction location generalizing node with
  | nil => exact (Option.some.inj h).symm
  | cons name rest ih =>
    obtain ⟨child, hchild, hrest⟩ := Option.bind_eq_some_iff.1 h
    cases node with
    | file => cases hchild
    | link => cases hchild
    | directory entries =>
      rw [child?] at hchild
      simp only [put, hchild, Option.getD_some, ih hrest, FileEntries.put_of_lookup hchild]

/-- The entries of a directory that a node is put into or below. -/
theorem put_cons {entries : FileEntries} {child : FileNode} {rest : Location}
    (h : entries.lookup name = some child) (new : FileNode) :
    put (.directory entries) new (name :: rest) =
      .directory (FileEntries.put name (child.put new rest) entries) := by
  simp only [put, h, Option.getD_some]

/-- A node that is put into a directory leaves alone what is not at its location or below. -/
theorem bare_find?_put {entries : FileEntries} {other : Location}
    (hdirectory : node.find? outer = some (.directory entries))
    (hother : ¬ outer ++ [name] <+: other) :
    ((node.put new (outer ++ [name])).find? other).map bare = (node.find? other).map bare := by
  induction outer generalizing node other with
  | nil =>
    cases hdirectory
    rcases other with _ | ⟨first, rest⟩
    · rfl
    · have hne : first ≠ name := by
        rintro rfl
        exact hother (List.prefix_append [first] rest)
      rw [List.nil_append, put, find?, find?, child?, FileEntries.lookup_put_of_ne hne, child?]
  | cons step outer ih =>
    obtain ⟨child, hchild, hinner⟩ := Option.bind_eq_some_iff.1 hdirectory
    cases node with
    | file => cases hchild
    | link => cases hchild
    | directory entries =>
      rw [child?] at hchild
      rw [List.cons_append, put_cons hchild]
      rcases other with _ | ⟨first, rest⟩
      · rfl
      · by_cases heq : first = step
        · subst heq
          have hrest : ¬ outer ++ [name] <+: rest := fun h =>
            hother ((List.prefix_cons_inj first).2 h)
          rw [find?, find?, child?, child?, FileEntries.lookup_put_self, hchild]
          exact ih hinner hrest
        · rw [find?, find?, child?, child?, FileEntries.lookup_put_of_ne heq]

/-- A well-formed tree stays so with a well-formed node in a directory of it. -/
theorem WellFormed.put {entries : FileEntries} (h : node.WellFormed) (hnew : new.WellFormed)
    (hdirectory : node.find? outer = some (.directory entries)) (hname : name.IsProper) :
    (node.put new (outer ++ [name])).WellFormed := by
  have hput {entries : FileEntries} {name : FileName} {child : FileNode}
      (h : WellFormed (.directory entries)) (hname : name.IsProper) (hchild : child.WellFormed) :
      WellFormed (.directory (FileEntries.put name child entries)) := by
    obtain ⟨distinct, proper, inside⟩ := h.of_directory
    refine .directory (FileEntries.nodup_put distinct) ?_ ?_
    · intro entry hmem
      rcases FileEntries.mem_put hmem with rfl | hmem
      · exact hname
      · exact proper entry hmem
    · intro entry hmem
      rcases FileEntries.mem_put hmem with rfl | hmem
      · exact hchild
      · exact inside entry hmem
  induction outer generalizing node with
  | nil =>
    cases hdirectory
    exact hput h hname hnew
  | cons step outer ih =>
    obtain ⟨child, hchild, hinner⟩ := Option.bind_eq_some_iff.1 hdirectory
    obtain ⟨hstep, hwell⟩ := h.child? hchild
    cases node with
    | file => cases hchild
    | link => cases hchild
    | directory entries =>
      rw [FileNode.child?] at hchild
      rw [List.cons_append, put_cons hchild]
      exact hput h hstep (ih hwell hinner)

end FileNode

end RouteTable
