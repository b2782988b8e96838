import RouteTable.Proofs.Files.Growing
import RouteTable.Proofs.Files.Hidden

/-!
A walk once more, when directories have been made and files written since. It goes where it went
before and into directories that have been made, and it finds the same files if it reaches none
that has been written.
-/

namespace RouteTable

open Reporting

namespace Walk

variable {setting : Setting} {fs' : FileSystem} {written : Location → Prop}
  {outer stack : List Place} {enclosing place : Place} {name : FileName} {names : List FileName}
  {node : FileNode} {remaining : FileEntries} {fresh : List Location}

def Setting.EndsWell (setting : Setting) : Prop :=
  (entries setting (setting.fresh [⟨setting.base, []⟩]) [⟨setting.base, []⟩] ⟨setting.base, []⟩
    (setting.fs.entriesAt setting.base)).outcome = .ok ()

section Entered

variable (hwf : setting.fs.WellFormed)
include hwf

theorem Setting.Enters.ne_up (h : setting.Enters outer place) :
    ∀ name ∈ place.names, name ≠ FileSystem.upName := by
  have hne {location : Location} {name : FileName} {node : FileNode}
      (hnode : setting.fs.root.find? (location ++ [name]) = some node) :
      ∀ name' ∈ [name], name' ≠ FileSystem.upName :=
    List.forall_mem_singleton.2 ((hwf.tree.find? hnode).2 name (by simp)).ne_up
  induction h with
  | base => exact List.forall_mem_nil _
  | directory _ _ hdirectory ih => exact List.forall_mem_append.2 ⟨ih, hne hdirectory.find?⟩
  | link _ _ hlink _ _ ih => exact List.forall_mem_append.2 ⟨ih, hne hlink⟩

/-- Each file that a walk reports is met in a directory that it goes into. -/
theorem exists_enters_of_mem_reports (hbase : setting.fs.HasDirectory setting.base)
    (hstack : stack = place :: outer) (hfresh : fresh = setting.fresh stack)
    (henters : setting.Enters outer place)
    (hremaining : ∀ entry ∈ remaining,
      setting.fs.root.find? (place.location ++ [entry.1]) = some entry.2)
    (hmem : names ∈ (entries setting fresh stack place remaining).reports) :
    ∃ outer place name node, setting.Enters outer place ∧ names = place.names ++ [name] ∧
      setting.fs.root.find? (place.location ++ [name]) = some node ∧
      setting.meet (setting.fresh (place :: outer)) (place :: outer) place name node =
        .ok .file := by
  induction fresh, stack, place, remaining using entries_induction setting generalizing outer with
  | nil =>
    rw [entries_nil] at hmem
    cases hmem
  | cons fresh stack place name node rest ih_inside ih_rest =>
    subst hstack hfresh
    obtain ⟨hnode, hrest⟩ := List.forall_mem_cons.1 hremaining
    rw [entries_cons, mem_reports_bind] at hmem
    rcases hmem with hmem | ⟨-, -, hmem⟩
    · obtain ⟨hshown, ⟨hmeet, hnames⟩ | ⟨location, inside, hmeet, hmem⟩⟩ :=
        mem_reports_singleton hmem
      · exact ⟨outer, place, name, node, henters, hnames, hnode, hmeet⟩
      · obtain ⟨hinner, rfl⟩ := henters.inner hwf hshown hnode hmeet
        have hdirectory := (hinner.reaches hwf hbase).hasDirectory
        exact ih_inside location _ hmeet rfl rfl hinner
          (fun entry hentry => hwf.find?_of_mem hdirectory hentry) hmem
    · exact ih_rest rfl rfl henters hrest hmem

variable (hbase : setting.fs.HasDirectory setting.base) (hok : setting.EndsWell)
include hbase hok

/-- A walk that ends well goes into no directory whose path the system refuses. -/
theorem Setting.Enters.not_isTooLong (h : setting.Enters (enclosing :: outer) place) :
    ¬ setting.isTooLong place.names := by
  cases h with
  | directory h hshown hdirectory =>
    have hmem := (hwf.mem_entriesAt (h.reaches hwf hbase).hasDirectory).2 hdirectory.find?
    have hsingle := outcome_entries_eq_ok_iff.1 (h.outcome_entries hwf hbase hok) _ hmem
    rw [entries_of_directory rfl hshown] at hsingle
    split at hsingle
    · cases hsingle
    · assumption
  | link h hshown hlink hfind hcycle =>
    have hmem := (hwf.mem_entriesAt (h.reaches hwf hbase).hasDirectory).2 hlink
    have hsingle := outcome_entries_eq_ok_iff.1 (h.outcome_entries hwf hbase hok) _ hmem
    rw [entries_of_directory (meet_link_of_find hwf hfind hcycle) hshown] at hsingle
    split at hsingle
    · cases hsingle
    · assumption

/-- Where a walk that ends well goes, each link leads to a file, or to a directory that the walk is
not in. -/
theorem Setting.Enters.find_link {target : Path} (h : setting.Enters outer place)
    (hlink : setting.fs.root.find? (place.location ++ [name]) = some (.link target)) :
    (∃ location contents,
        setting.find (place.names ++ [name]) = .ok (.file location contents)) ∨
      ∃ location inside,
        setting.find (place.names ++ [name]) = .ok (.directory location inside) ∧
        ∀ enclosing ∈ place :: outer, enclosing.location ≠ location := by
  have hmem := (hwf.mem_entriesAt (h.reaches hwf hbase).hasDirectory).2 hlink
  have hsingle := outcome_entries_eq_ok_iff.1 (h.outcome_entries hwf hbase hok) _ hmem
  obtain ⟨met, hmeet⟩ := exists_met_of_ok hsingle
  rcases meet_link_eq_ok hmeet with ⟨location, contents, -, hfind⟩ |
    ⟨location, inside, -, hfresh, hfind⟩
  · exact .inl ⟨location, contents, hfind⟩
  · exact .inr ⟨location, inside, hfind, ((mem_fresh_iff hwf).1 hfresh).2⟩

end Entered

section Grown

variable (hwf : setting.fs.WellFormed) (hwf' : fs'.WellFormed)
  (hbase : setting.fs.HasDirectory setting.base) (hok : setting.EndsWell)
  (h : setting.fs.Grows fs' written)

include h in
theorem Setting.find_grows {found : Found} (hfind : setting.find names = .ok found)
    (hfound : ∀ vacant, found ≠ .vacant vacant) :
    ∃ found', (setting.on fs').find names = .ok found' ∧ fs'.Stays written found found' := by
  have htoolong : (setting.on fs').isTooLong names = setting.isTooLong names := rfl
  rw [find] at hfind ⊢
  rw [htoolong]
  split at hfind
  · cases hfind
  · rename_i hshort
    rw [if_neg hshort]
    exact h.follow hfind hfound

include hwf hbase hok h

/-- Into a directory that there was before, the walk went before. -/
theorem Setting.Enters.of_grows (henters : (setting.on fs').Enters outer place)
    (hdirectory : setting.fs.HasDirectory place.location) : setting.Enters outer place := by
  induction henters with
  | base => exact .base
  | directory _ hshown _ ih => exact (ih hdirectory.of_append).directory hshown hdirectory
  | link _ hshown hlink hfind _ ih =>
    have hold := h.find?_link_iff.1 hlink
    have houter := ih (FileSystem.hasDirectory_of_find? hold)
    rcases houter.find_link hwf hbase hok hold with ⟨_, _, hfile⟩ | ⟨_, _, hinside, hcycle⟩
    · obtain ⟨_, hfile', hstays⟩ := find_grows h hfile (by simp)
      cases hstays
      cases hfind.symm.trans hfile'
    · obtain ⟨_, hinside', hstays⟩ := find_grows h hinside (by simp)
      cases hstays
      cases hfind.symm.trans hinside'
      exact houter.link hshown hold hinside hcycle

/-- There are no links but those that the walk passed before. -/
theorem Setting.Enters.find_link_grows {target : Path}
    (henters : (setting.on fs').Enters outer place)
    (hlink : fs'.root.find? (place.location ++ [name]) = some (.link target)) :
    ∃ found found', setting.find (place.names ++ [name]) = .ok found ∧
      (setting.on fs').find (place.names ++ [name]) = .ok found' ∧
      fs'.Stays written found found' ∧
      ∀ location inside, found = .directory location inside →
        ∀ enclosing ∈ place :: outer, enclosing.location ≠ location := by
  have hold := h.find?_link_iff.1 hlink
  have houter := henters.of_grows hwf hbase hok h (FileSystem.hasDirectory_of_find? hold)
  rcases houter.find_link hwf hbase hok hold with ⟨_, _, hfile⟩ | ⟨_, _, hinside, hcycle⟩
  · obtain ⟨found', hfile', hstays⟩ := find_grows h hfile (by simp)
    refine ⟨_, found', hfile, hfile', hstays, fun _ _ heq => ?_⟩
    cases heq
  · obtain ⟨found', hinside', hstays⟩ := find_grows h hinside (by simp)
    refine ⟨_, found', hinside, hinside', hstays, fun _ _ heq => ?_⟩
    cases heq
    exact hcycle

include hwf'

theorem Setting.Enters.exists_meet_grows (henters : (setting.on fs').Enters outer place)
    (hnode : fs'.root.find? (place.location ++ [name]) = some node) :
    ∃ met, (setting.on fs').meet ((setting.on fs').fresh (place :: outer)) (place :: outer) place
      name node = .ok met := by
  cases node with
  | file => exact ⟨.file, rfl⟩
  | directory inside => exact ⟨.directory _ inside, rfl⟩
  | link target =>
    apply (exists_meet_link_iff hwf').2
    intro hfault
    obtain ⟨_, _, -, hfind', hstays, hcycle⟩ := henters.find_link_grows hwf hbase hok h hnode
    rcases hfault _ hfind' with ⟨_, heq⟩ | ⟨_, _, heq, enclosing, hmem, hlocation⟩
    · cases hstays <;> cases heq
    · cases hstays with
      | file => cases heq
      | directory =>
        cases heq
        exact hcycle _ _ rfl enclosing hmem hlocation

/-- The walk still ends well, if the system refuses the path of no directory that has been made. -/
theorem outcome_entries_grows
    (hshort : ∀ outer place, (setting.on fs').Enters outer place →
      ¬ setting.fs.HasDirectory place.location → ¬ setting.isTooLong place.names)
    (hstack : stack = place :: outer) (hfresh : fresh = (setting.on fs').fresh stack)
    (henters : (setting.on fs').Enters outer place)
    (hremaining : ∀ entry ∈ remaining,
      fs'.root.find? (place.location ++ [entry.1]) = some entry.2) :
    (entries (setting.on fs') fresh stack place remaining).outcome = .ok () := by
  induction fresh, stack, place, remaining using entries_induction (setting.on fs')
    generalizing outer with
  | nil =>
    rw [entries_nil]
    rfl
  | cons fresh stack place name node rest ih_inside ih_rest =>
    subst hstack hfresh
    obtain ⟨hnode, hrest⟩ := List.forall_mem_cons.1 hremaining
    rw [entries_cons, outcome_bind_eq_ok_iff]
    refine ⟨(), ?_, ih_rest rfl rfl henters hrest⟩
    obtain ⟨met, hmeet⟩ := henters.exists_meet_grows hwf hwf' hbase hok h hnode
    by_cases hshown : (setting.on fs').shows name
    · cases met with
      | file => exact outcome_entries_of_file hmeet
      | directory location inside =>
        obtain ⟨hinner, rfl⟩ := henters.inner hwf' hshown hnode hmeet
        have hpassable : ¬ (setting.on fs').isTooLong (place.names ++ [name]) := by
          by_cases hold : setting.fs.HasDirectory location
          · exact (hinner.of_grows hwf hbase hok h hold).not_isTooLong hwf hbase hok
          · exact hshort _ _ hinner hold
        have hdirectory := (hinner.reaches hwf' (h.hasDirectory hbase)).hasDirectory
        rw [entries_of_directory hmeet hshown, if_neg hpassable]
        exact ih_inside location _ hmeet rfl rfl hinner
          fun entry hentry => hwf'.find?_of_mem hdirectory hentry
    · rw [entries_of_hidden hmeet (Bool.not_eq_true _ ▸ hshown)]
      rfl

/-- A file that is met and has not been written was there before. -/
theorem Setting.Enters.leads_of_grows (henters : (setting.on fs').Enters outer place)
    (hnode : fs'.root.find? (place.location ++ [name]) = some node)
    (hmeet : (setting.on fs').meet ((setting.on fs').fresh (place :: outer)) (place :: outer) place
      name node = .ok .file)
    (hunwritten : ∀ n location contents,
      fs'.Leads [] .name (setting.base ++ (place.names ++ [name])) n (.file location contents) →
        ¬ written location) :
    ∃ n location contents, setting.fs.Leads [] .name (setting.base ++ (place.names ++ [name])) n
      (.file location contents) := by
  cases node with
  | directory => cases hmeet
  | file contents =>
    obtain ⟨n, hleads⟩ := (henters.reaches hwf' (h.hasDirectory hbase)).leads
    have hproper := (hwf'.tree.find? hnode).2 name (by simp)
    have hfile := hleads.append rfl (.file hproper.ne_up hproper.length_le hnode)
      (List.cons_ne_nil _ _)
    rw [List.append_assoc] at hfile
    have hold := h.find?_file_of_not hnode (hunwritten _ _ _ hfile)
    have houter := henters.of_grows hwf hbase hok h (FileSystem.hasDirectory_of_find? hold)
    have hmeet : setting.meet [] outer place name (.file contents) = .ok .file := rfl
    exact (houter.reaches hwf hbase).leads_to_file hwf hold hmeet
  | link target =>
    obtain ⟨found, _, hfind, hfind', hstays, -⟩ :=
      henters.find_link_grows hwf hbase hok h hnode
    rcases meet_link_eq_ok hmeet with ⟨location, contents, -, hfile⟩ | ⟨_, _, heq, -⟩
    · cases hfind'.symm.trans hfile
      cases hstays
      obtain ⟨n, hleads⟩ := leads_of_find hfind
      exact ⟨n, _, _, hleads⟩
    · cases heq

end Grown

end Walk

namespace FileSystem

open Walk

variable {fs fs' : FileSystem} {written : Location → Prop} {hidden : Bool} {base : Location}

/-- Whether names can be those of something that a walk looks at. -/
def Shows (hidden : Bool) (names : List FileName) : Prop :=
  ∀ name ∈ names, name ≠ upName ∧ (hidden || !name.isHidden)

/-- Whether the system takes the paths of directories below a base that have been made. -/
def TakesMade (fs fs' : FileSystem) (hidden : Bool) (base : Location) : Prop :=
  ∀ names n location inside, Shows hidden names →
    fs'.Leads [] .name (base ++ names) n (.directory location inside) →
    ¬ fs.HasDirectory location → (Location.path (base ++ names)).bytes.length < maximalPath

section Walks

variable (hwf : fs.WellFormed) (hwf' : fs'.WellFormed) (hbase : fs.HasDirectory base)
  (hok : (fs.walk hidden base).outcome = .ok ()) (h : fs.Grows fs' written)
include hwf hwf' hbase hok h

/-- A walk that ended well ends well again. -/
theorem walk_ok_of_grows (hmade : fs.TakesMade fs' hidden base) :
    (fs'.walk hidden base).outcome = .ok () := by
  have hsorted := (hwf.alike_sorted base).hasDirectory hbase
  have hbase' := (hwf'.alike_sorted base).hasDirectory (h.hasDirectory hbase)
  have hunsorted : fs'.sorted.Grows fs' written :=
    ⟨rfl, fun location => .of_bare_eq (hwf'.alike_sorted location).symm⟩
  have hwell : (fs.walkSetting hidden base).fs.WellFormed := hwf.sorted
  rw [walk_eq]
  apply outcome_entries_grows hwell hwf'.sorted hsorted hok (h.sorted hwf hwf') ?_ rfl rfl .base
  · exact fun entry hentry => hwf'.sorted.find?_of_mem hbase' hentry
  · intro outer place henters hnew
    obtain ⟨n, hleads⟩ := (henters.reaches hwf'.sorted hbase').leads
    obtain ⟨_, hleads', hstays⟩ := hleads.grows hunsorted (by simp)
    cases hstays
    have hnew' : ¬ fs.HasDirectory place.location := fun hdirectory =>
      hnew ((hwf.alike_sorted _).hasDirectory hdirectory)
    have hshown : Shows hidden place.names := fun name hname =>
      ⟨henters.ne_up hwf'.sorted name hname, henters.shown name hname⟩
    have hlength := hmade _ _ _ _ hshown hleads' hnew'
    exact fun hlong => Nat.not_le.2 hlength (of_decide_eq_true hlong)

/-- A walk finds the files that it found before, if it reaches none that has been written. -/
theorem leads_iff_of_grows (hok' : (fs'.walk hidden base).outcome = .ok ())
    (hunwritten : ∀ names n location contents, Shows hidden names →
      fs'.Leads [] .name (base ++ names) n (.file location contents) → ¬ written location)
    {names : List FileName} (hshown : Shows hidden names) :
    (∃ n location contents, fs'.Leads [] .name (base ++ names) n (.file location contents)) ↔
      ∃ n location contents, fs.Leads [] .name (base ++ names) n (.file location contents) := by
  have hsorted := (hwf.alike_sorted base).hasDirectory hbase
  have hbase' := h.hasDirectory hbase
  have hsorted' := (hwf'.alike_sorted base).hasDirectory hbase'
  have hwell : (fs.walkSetting hidden base).fs.WellFormed := hwf.sorted
  constructor
  · intro hleads
    have hmem := (mem_reports_walk hwf' hbase' hok').2 ⟨hshown, hleads⟩
    rw [walk_eq] at hmem
    obtain ⟨outer, place, name, node, henters, rfl, hnode, hmeet⟩ :=
      exists_enters_of_mem_reports hwf'.sorted hsorted' rfl rfl .base
        (fun entry hentry => hwf'.sorted.find?_of_mem hsorted' hentry) hmem
    obtain ⟨n, location, contents, hleads'⟩ :=
      Setting.Enters.leads_of_grows hwell hwf'.sorted hsorted hok (h.sorted hwf hwf') henters hnode
        hmeet fun n _ _ hfile => by
          obtain ⟨m, hfile'⟩ := hwf'.leads_sorted_file_iff.1 ⟨n, hfile⟩
          exact hunwritten _ m _ _ hshown hfile'
    obtain ⟨m, hleads'⟩ := hwf.leads_sorted_file_iff.1 ⟨n, hleads'⟩
    exact ⟨m, location, contents, hleads'⟩
  · rintro ⟨n, location, contents, hleads⟩
    obtain ⟨_, hleads', hstays⟩ := hleads.grows h (by simp)
    cases hstays
    exact ⟨n, location, _, hleads'⟩

end Walks

end FileSystem

end RouteTable
