import RouteTable.Files.Walk
import RouteTable.Proofs.Files.Likeness
import RouteTable.Proofs.Reporting

/-!
What a walk finds. A walk that ends well reports each file that names lead to from its base, if they
are all looked at, and it reports it once.
-/

namespace RouteTable

open Reporting

namespace Walk

variable {setting : Setting} {fresh : List Location} {enclosing : List Place} {place : Place}
  {name : FileName} {node : FileNode} {remaining rest : FileEntries}

section Steps

theorem entries_nil : entries setting fresh enclosing place [] = pure () := by
  rw [entries]

theorem entries_of_error {fault : WalkFault}
    (hmeet : setting.meet fresh enclosing place name node = .error fault) :
    entries setting fresh enclosing place [(name, node)] = .fail fault := by
  rw [entries]
  split
  · rename_i fault' hmeet'
    cases hmeet.symm.trans hmeet'
    rfl
  · rename_i hmeet'
    cases hmeet.symm.trans hmeet'
  · rename_i hmeet'
    cases hmeet.symm.trans hmeet'

theorem entries_of_hidden {met : Met}
    (hmeet : setting.meet fresh enclosing place name node = .ok met)
    (hhidden : setting.shows name = false) :
    entries setting fresh enclosing place [(name, node)] = pure () := by
  rw [entries, entries_nil]
  split
  · rename_i hmeet'
    cases hmeet.symm.trans hmeet'
  · rw [hhidden]
    rfl
  · rw [hhidden]
    rfl

theorem entries_of_file (hmeet : setting.meet fresh enclosing place name node = .ok .file)
    (hshown : setting.shows name) :
    entries setting fresh enclosing place [(name, node)] = .report (place.names ++ [name]) := by
  rw [entries, entries_nil]
  split
  · rename_i hmeet'
    cases hmeet.symm.trans hmeet'
  · rw [if_pos hshown]
    rfl
  · rename_i hmeet'
    cases hmeet.symm.trans hmeet'

theorem outcome_entries_of_file
    (hmeet : setting.meet fresh enclosing place name node = .ok .file) :
    (entries setting fresh enclosing place [(name, node)]).outcome = .ok () := by
  by_cases hshown : setting.shows name
  · rw [entries_of_file hmeet hshown]
    rfl
  · rw [entries_of_hidden hmeet (Bool.not_eq_true _ ▸ hshown)]
    rfl

theorem entries_of_directory {location : Location} {inside : FileEntries}
    (hmeet : setting.meet fresh enclosing place name node = .ok (.directory location inside))
    (hshown : setting.shows name) :
    entries setting fresh enclosing place [(name, node)] =
      if setting.isTooLong (place.names ++ [name]) then
        .fail (.broken (setting.path (place.names ++ [name])) .nameTooLong)
      else
        entries setting (fresh.erase location) (⟨location, place.names ++ [name]⟩ :: enclosing)
          ⟨location, place.names ++ [name]⟩ inside := by
  rw [entries, entries_nil]
  split
  · rename_i hmeet'
    cases hmeet.symm.trans hmeet'
  · rename_i hmeet'
    cases hmeet.symm.trans hmeet'
  · rename_i hmeet'
    cases hmeet.symm.trans hmeet'
    rw [if_pos hshown]
    exact bind_pure _

end Steps

/-- Induction along a walk: through the entries of a directory, and into those that are met. -/
theorem entries_induction (setting : Setting)
    {motive : List Location → List Place → Place → FileEntries → Prop}
    (nil : ∀ fresh enclosing place, motive fresh enclosing place [])
    (cons : ∀ fresh enclosing place name node rest,
      (∀ location inside,
        setting.meet fresh enclosing place name node = .ok (.directory location inside) →
          motive (fresh.erase location) (⟨location, place.names ++ [name]⟩ :: enclosing)
            ⟨location, place.names ++ [name]⟩ inside) →
        motive fresh enclosing place rest → motive fresh enclosing place ((name, node) :: rest)) :
    ∀ fresh enclosing place remaining, motive fresh enclosing place remaining :=
  entries.induct setting motive nil cons

/-- Entries are walked through one after another. -/
theorem entries_cons (entry : FileName × FileNode) :
    entries setting fresh enclosing place (entry :: rest) =
      entries setting fresh enclosing place [entry] >>= fun _ =>
        entries setting fresh enclosing place rest := by
  obtain ⟨name, node⟩ := entry
  rw [entries, entries.eq_2 setting fresh enclosing place name node [], entries_nil, bind_assoc]
  rfl

theorem outcome_entries_eq_ok_iff :
    (entries setting fresh enclosing place remaining).outcome = .ok () ↔
      ∀ entry ∈ remaining, (entries setting fresh enclosing place [entry]).outcome = .ok () := by
  induction remaining with
  | nil =>
    rw [entries_nil]
    exact ⟨fun _ => List.forall_mem_nil _, fun _ => rfl⟩
  | cons entry rest ih =>
    rw [entries_cons, outcome_bind_eq_ok_iff, List.forall_mem_cons, ← ih]
    exact ⟨fun ⟨_, hfirst, hrest⟩ => ⟨hfirst, hrest⟩, fun ⟨hfirst, hrest⟩ => ⟨(), hfirst, hrest⟩⟩

theorem reports_entries_of_ok
    (hok : (entries setting fresh enclosing place remaining).outcome = .ok ()) :
    (entries setting fresh enclosing place remaining).reports =
      remaining.flatMap fun entry => (entries setting fresh enclosing place [entry]).reports := by
  induction remaining with
  | nil =>
    rw [entries_nil]
    rfl
  | cons entry rest ih =>
    rw [outcome_entries_eq_ok_iff, List.forall_mem_cons, ← outcome_entries_eq_ok_iff] at hok
    rw [entries_cons, reports_bind_of_ok hok.1, List.flatMap_cons, ih hok.2]

/-- What is reported for one entry: a file, or what is reported from the directory that is met. -/
theorem mem_reports_singleton {names : List FileName}
    (hmem : names ∈ (entries setting fresh enclosing place [(name, node)]).reports) :
    setting.shows name ∧
      (setting.meet fresh enclosing place name node = .ok .file ∧ names = place.names ++ [name] ∨
        ∃ location inside,
          setting.meet fresh enclosing place name node = .ok (.directory location inside) ∧
          names ∈ (entries setting (fresh.erase location)
            (⟨location, place.names ++ [name]⟩ :: enclosing) ⟨location, place.names ++ [name]⟩
            inside).reports) := by
  rcases hmeet : setting.meet fresh enclosing place name node with fault | met
  · rw [entries_of_error hmeet] at hmem
    cases hmem
  · by_cases hshown : setting.shows name
    · refine ⟨hshown, ?_⟩
      cases met with
      | file =>
        rw [entries_of_file hmeet hshown] at hmem
        exact .inl ⟨rfl, List.mem_singleton.1 hmem⟩
      | directory location inside =>
        rw [entries_of_directory hmeet hshown] at hmem
        split at hmem
        · cases hmem
        · exact .inr ⟨location, inside, rfl, hmem⟩
    · rw [entries_of_hidden hmeet (Bool.not_eq_true _ ▸ hshown)] at hmem
      cases hmem

/-- What is reported from a directory has the names that led to it, and then that of an entry. -/
theorem prefix_of_mem_reports {names : List FileName}
    (hmem : names ∈ (entries setting fresh enclosing place remaining).reports) :
    ∃ entry ∈ remaining, ∃ inner, names = place.names ++ entry.1 :: inner := by
  induction fresh, enclosing, place, remaining using entries_induction setting with
  | nil =>
    rw [entries_nil] at hmem
    cases hmem
  | cons fresh enclosing place name node rest ih_inside ih_rest =>
    rw [entries_cons, mem_reports_bind] at hmem
    rcases hmem with hmem | ⟨-, -, hmem⟩
    · refine ⟨(name, node), List.mem_cons_self, ?_⟩
      obtain ⟨-, ⟨-, rfl⟩ | ⟨location, inside, hmeet, hmem⟩⟩ := mem_reports_singleton hmem
      · exact ⟨[], rfl⟩
      · obtain ⟨entry, -, inner, rfl⟩ := ih_inside location inside hmeet hmem
        exact ⟨entry.1 :: inner, (List.append_cons ..).symm⟩
    · obtain ⟨entry, hentry, hnames⟩ := ih_rest hmem
      exact ⟨entry, List.mem_cons_of_mem _ hentry, hnames⟩

/-- A walk that ends well meets no fault. -/
theorem exists_met_of_ok
    (hok : (entries setting fresh enclosing place [(name, node)]).outcome = .ok ()) :
    ∃ met, setting.meet fresh enclosing place name node = .ok met := by
  rcases hmeet : setting.meet fresh enclosing place name node with fault | met
  · rw [entries_of_error hmeet] at hok
    cases hok
  · exact ⟨met, rfl⟩

/-- A walk that ends well goes into the directories that it meets. -/
theorem entries_of_directory_of_ok {location : Location} {inside : FileEntries}
    (hok : (entries setting fresh enclosing place [(name, node)]).outcome = .ok ())
    (hmeet : setting.meet fresh enclosing place name node = .ok (.directory location inside))
    (hshown : setting.shows name) :
    entries setting fresh enclosing place [(name, node)] =
      entries setting (fresh.erase location) (⟨location, place.names ++ [name]⟩ :: enclosing)
        ⟨location, place.names ++ [name]⟩ inside := by
  rw [entries_of_directory hmeet hshown] at hok ⊢
  split at hok
  · cases hok
  · rename_i hshort
    rw [if_neg hshort]

section Finding

/-- Whether what has the names of a place is the directory at its location. -/
structure Setting.Reaches (setting : Setting) (place : Place) : Prop where
  hasDirectory : setting.fs.HasDirectory place.location
  leads : ∃ n, setting.fs.Leads [] .name (setting.base ++ place.names) n
    (.directory place.location (setting.fs.entriesAt place.location))

theorem Setting.leads_of_find {names : List FileName} {found : Found}
    (h : setting.find names = .ok found) :
    ∃ n, setting.fs.Leads [] .name (setting.base ++ names) n found := by
  rw [find] at h
  split at h
  · cases h
  · obtain ⟨n, -, hleads⟩ := FileSystem.follow_eq_ok_iff.1 h
    exact ⟨n, hleads⟩

/-- What a walk meets under the name of a link is what the path to it leads to. -/
theorem Setting.meet_link_eq_ok {target : Path} {met : Met}
    (hmeet : setting.meet fresh enclosing place name (.link target) = .ok met) :
    (∃ location contents, met = .file ∧
        setting.find (place.names ++ [name]) = .ok (.file location contents)) ∨
      ∃ location inside, met = .directory location inside ∧ location ∈ fresh ∧
        setting.find (place.names ++ [name]) = .ok (.directory location inside) := by
  simp only [meet] at hmeet
  split at hmeet
  · cases hmeet
  · cases hmeet
  · rename_i location contents hfind
    cases hmeet
    exact .inl ⟨location, contents, rfl, hfind⟩
  · rename_i location inside hfind
    split at hmeet
    · rename_i hfresh
      cases hmeet
      exact .inr ⟨location, inside, rfl, hfresh, hfind⟩
    · cases hmeet

variable (hwf : setting.fs.WellFormed)
include hwf

theorem Setting.reaches_of_find {names : List FileName} {location : Location}
    {inside : FileEntries} (h : setting.find names = .ok (.directory location inside)) :
    setting.Reaches ⟨location, names⟩ ∧ inside = setting.fs.entriesAt location := by
  obtain ⟨n, hleads⟩ := leads_of_find h
  have hdirectory := hleads.find?_directory hwf.hasDirectory_root
  have hinside := FileSystem.entriesAt_of_find? hdirectory
  exact ⟨⟨⟨inside, hdirectory⟩, n, hinside.symm ▸ hleads⟩, hinside.symm⟩

variable (hplace : setting.Reaches place)
  (hnode : setting.fs.root.find? (place.location ++ [name]) = some node)
include hplace hnode

theorem Setting.Reaches.leads_to_file
    (hmeet : setting.meet fresh enclosing place name node = .ok .file) :
    ∃ n location contents, setting.fs.Leads [] .name (setting.base ++ (place.names ++ [name])) n
      (.file location contents) := by
  cases node with
  | file contents =>
    obtain ⟨n, hleads⟩ := hplace.leads
    have hproper := (hwf.tree.find? hnode).2 name (by simp)
    rw [← List.append_assoc]
    exact ⟨n + 0, _, contents, hleads.append rfl
      (.file hproper.ne_up hproper.length_le hnode) (List.cons_ne_nil _ _)⟩
  | directory => cases hmeet
  | link target =>
    rcases Setting.meet_link_eq_ok hmeet with ⟨location, contents, -, hfind⟩ | ⟨_, _, heq, -⟩
    · obtain ⟨n, hleads⟩ := Setting.leads_of_find hfind
      exact ⟨n, location, contents, hleads⟩
    · cases heq

theorem Setting.Reaches.inner {location : Location} {inside : FileEntries}
    (hmeet : setting.meet fresh enclosing place name node = .ok (.directory location inside)) :
    setting.Reaches ⟨location, place.names ++ [name]⟩ ∧
      inside = setting.fs.entriesAt location := by
  cases node with
  | file => cases hmeet
  | directory listed =>
    cases hmeet
    obtain ⟨n, hleads⟩ := hplace.leads
    have hproper := (hwf.tree.find? hnode).2 name (by simp)
    refine ⟨⟨⟨inside, hnode⟩, n + 0, ?_⟩, (FileSystem.entriesAt_of_find? hnode).symm⟩
    rw [← List.append_assoc]
    exact hleads.append rfl (.directory hproper.ne_up hproper.length_le hnode .here)
      (List.cons_ne_nil _ _)
  | link target =>
    rcases Setting.meet_link_eq_ok hmeet with ⟨_, _, heq, -⟩ | ⟨location, inside, heq, -, hfind⟩
    · cases heq
    · cases heq
      exact Setting.reaches_of_find hwf hfind

end Finding

section Ends

variable (hwf : setting.fs.WellFormed) (hplace : setting.Reaches place)
  (hok : (entries setting fresh enclosing place
    (setting.fs.entriesAt place.location)).outcome = .ok ())
include hwf hplace hok

/-- What a walk reports are files that the names lead to, with names that are looked at. -/
theorem leads_of_mem_reports {names : List FileName}
    (hmem : place.names ++ names ∈
      (entries setting fresh enclosing place (setting.fs.entriesAt place.location)).reports) :
    (∀ name ∈ names, name.IsProper ∧ setting.shows name) ∧ ∃ n location contents,
      setting.fs.Leads [] .name (setting.base ++ (place.names ++ names)) n
        (.file location contents) := by
  -- On the names below the place: the first is that of an entry, and the others are reported from
  -- the directory that the entry is or leads to.
  induction names generalizing fresh enclosing place with
  | nil =>
    obtain ⟨entry, -, inner, heq⟩ := prefix_of_mem_reports hmem
    cases List.append_cancel_left heq
  | cons name rest ih =>
    rw [reports_entries_of_ok hok, List.mem_flatMap] at hmem
    obtain ⟨⟨name', node⟩, hmem, hreport⟩ := hmem
    obtain ⟨entry, hentry, inner, heq⟩ := prefix_of_mem_reports hreport
    obtain rfl := List.mem_singleton.1 hentry
    obtain ⟨rfl, rfl⟩ := List.cons.inj (List.append_cancel_left heq)
    have hnode := (hwf.mem_entriesAt hplace.hasDirectory).1 hmem
    have hproper := (hwf.tree.find? hnode).2 name (by simp)
    obtain ⟨hshown, ⟨hmeet, heq⟩ | ⟨location, inside, hmeet, hreport⟩⟩ :=
      mem_reports_singleton hreport
    · obtain ⟨-, rfl⟩ := List.cons.inj (List.append_cancel_left heq)
      exact ⟨List.forall_mem_singleton.2 ⟨hproper, hshown⟩,
        hplace.leads_to_file hwf hnode hmeet⟩
    · obtain ⟨hinner, rfl⟩ := hplace.inner hwf hnode hmeet
      have hokinner := outcome_entries_eq_ok_iff.1 hok _ hmem
      rw [entries_of_directory_of_ok hokinner hmeet hshown] at hokinner
      have hpath : place.names ++ name :: rest = place.names ++ [name] ++ rest :=
        List.append_cons ..
      rw [hpath] at hreport ⊢
      obtain ⟨hrest, hleads⟩ := ih hinner hokinner hreport
      exact ⟨List.forall_mem_cons.2 ⟨⟨hproper, hshown⟩, hrest⟩, hleads⟩

/-- A walk that ends well reports every file that names that are looked at lead to. -/
theorem mem_reports_of_leads {names : List FileName}
    (hall : ∀ name ∈ names, name ≠ FileSystem.upName ∧ setting.shows name) {n : Nat}
    {location : Location} {contents : List UInt8}
    (hleads : setting.fs.Leads [] .name (setting.base ++ (place.names ++ names)) n
      (.file location contents)) :
    place.names ++ names ∈
      (entries setting fresh enclosing place (setting.fs.entriesAt place.location)).reports := by
  induction names generalizing fresh enclosing place with
  | nil =>
    obtain ⟨m, hplace⟩ := hplace.leads
    rw [List.append_nil] at hleads
    cases hleads.unique hplace
  | cons name rest ih =>
    obtain ⟨⟨hup, hshown⟩, hrest⟩ := List.forall_mem_cons.1 hall
    obtain ⟨m, hplaceLeads⟩ := hplace.leads
    have hsplit := hleads
    rw [← List.append_assoc] at hsplit
    obtain ⟨_, _, location', -, hfirst, hsecond⟩ := hsplit.split (List.cons_ne_nil _ _)
    -- What leads to the file leads to the place first, so that there is an entry under the name.
    cases (hfirst .name).unique hplaceLeads
    obtain ⟨node, hnode⟩ := hsecond.exists_node hup
    have hmem := (hwf.mem_entriesAt hplace.hasDirectory).2 hnode
    have hokinner := outcome_entries_eq_ok_iff.1 hok _ hmem
    obtain ⟨met, hmeet⟩ := exists_met_of_ok hokinner
    rw [reports_entries_of_ok hok, List.mem_flatMap]
    refine ⟨(name, node), hmem, ?_⟩
    rw [List.append_cons] at hleads ⊢
    cases met with
    | file =>
      obtain ⟨_, _, _, hfile⟩ := hplace.leads_to_file hwf hnode hmeet
      rcases rest with _ | ⟨second, rest⟩
      · rw [entries_of_file hmeet hshown, List.append_nil]
        exact List.mem_singleton_self _
      · rw [← List.append_assoc] at hleads
        obtain ⟨_, _, _, -, hfirst, -⟩ := hleads.split (List.cons_ne_nil _ _)
        cases (hfirst .name).unique hfile
    | directory location' inside =>
      obtain ⟨hinner, rfl⟩ := hplace.inner hwf hnode hmeet
      rw [entries_of_directory_of_ok hokinner hmeet hshown]
      rw [entries_of_directory_of_ok hokinner hmeet hshown] at hokinner
      exact ih hinner hokinner hrest hleads

end Ends

/-- A directory that is met has well-formed entries. -/
theorem wellFormed_of_meet (hwf : setting.fs.WellFormed) (hnode : node.WellFormed)
    {location : Location} {inside : FileEntries}
    (hmeet : setting.meet fresh enclosing place name node = .ok (.directory location inside)) :
    (FileNode.directory inside).WellFormed := by
  cases node with
  | file => cases hmeet
  | directory =>
    cases hmeet
    exact hnode
  | link target =>
    rcases Setting.meet_link_eq_ok hmeet with ⟨_, _, heq, -⟩ | ⟨location, inside, heq, -, hfind⟩
    · cases heq
    · cases heq
      obtain ⟨n, hleads⟩ := Setting.leads_of_find hfind
      exact (hwf.tree.find? (hleads.find?_directory hwf.hasDirectory_root)).1

/-- A walk reports nothing twice. -/
theorem nodup_reports (hwf : setting.fs.WellFormed)
    (hremaining : (FileNode.directory remaining).WellFormed)
    (hok : (entries setting fresh enclosing place remaining).outcome = .ok ()) :
    (entries setting fresh enclosing place remaining).reports.Nodup := by
  induction fresh, enclosing, place, remaining using entries_induction setting with
  | nil =>
    rw [entries_nil]
    exact List.nodup_nil
  | cons fresh enclosing place name node rest ih_inside ih_rest =>
    obtain ⟨distinct, proper, inside⟩ := hremaining.of_directory
    obtain ⟨hname, distinct⟩ := List.nodup_cons.1 distinct
    have hrest : (FileNode.directory rest).WellFormed :=
      .directory distinct (fun entry hmem => proper entry (List.mem_cons_of_mem _ hmem))
        fun entry hmem => inside entry (List.mem_cons_of_mem _ hmem)
    rw [entries_cons] at hok
    obtain ⟨_, hokfirst, hokrest⟩ := outcome_bind_eq_ok_iff.1 hok
    rw [entries_cons, reports_bind_of_ok hokfirst, List.nodup_append]
    refine ⟨?_, ih_rest hrest hokrest, ?_⟩
    · obtain ⟨met, hmeet⟩ := exists_met_of_ok hokfirst
      by_cases hshown : setting.shows name
      · cases met with
        | file =>
          rw [entries_of_file hmeet hshown]
          exact List.nodup_singleton _
        | directory location inside' =>
          have hinside := wellFormed_of_meet hwf (inside _ List.mem_cons_self) hmeet
          rw [entries_of_directory_of_ok hokfirst hmeet hshown]
          rw [entries_of_directory_of_ok hokfirst hmeet hshown] at hokfirst
          exact ih_inside location inside' hmeet hinside hokfirst
      · rw [entries_of_hidden hmeet (Bool.not_eq_true _ ▸ hshown)]
        exact List.nodup_nil
    -- Whatever is reported has the name of its entry behind the names of the place.
    · intro names hfirst names' hlater heq
      obtain ⟨entry, hentry, inner, rfl⟩ := prefix_of_mem_reports hfirst
      obtain ⟨entry', hentry', inner', rfl⟩ := prefix_of_mem_reports hlater
      obtain rfl := List.mem_singleton.1 hentry
      have hsame := (List.cons.inj (List.append_cancel_left heq)).1
      rw [hsame] at hname
      exact hname (List.mem_map_of_mem hentry')

end Walk

namespace FileSystem

open Walk

variable {fs : FileSystem} {hidden : Bool} {base : Location}

def walkSetting (fs : FileSystem) (hidden : Bool) (base : Location) : Setting :=
  ⟨fs.sorted, base, hidden⟩

theorem walk_eq (fs : FileSystem) (hidden : Bool) (base : Location) :
    fs.walk hidden base =
      entries (fs.walkSetting hidden base) ((fs.sorted.root.directories []).erase base)
        [⟨base, []⟩] ⟨base, []⟩ (fs.sorted.entriesAt base) :=
  rfl

/-- A walk through a directory with files and links to files only ends well. -/
theorem walk_ok_of_files (hwf : fs.WellFormed) (hbase : fs.HasDirectory base)
    (h : ∀ name node, fs.root.find? (base ++ [name]) = some node →
      (∃ contents, node = .file contents) ∨
        ∃ target location contents, node = .link target ∧
          (fs.walkSetting hidden base).find [name] = .ok (.file location contents)) :
    (fs.walk hidden base).outcome = .ok () := by
  have hsorted := (hwf.alike_sorted base).hasDirectory hbase
  rw [walk_eq, outcome_entries_eq_ok_iff]
  rintro ⟨name, node⟩ hmem
  have hnode : fs.sorted.root.find? (base ++ [name]) = some node :=
    (hwf.sorted.mem_entriesAt hsorted).1 hmem
  rw [sorted, hwf.tree.find?_sorted, Option.map_eq_some_iff] at hnode
  obtain ⟨child, hchild, rfl⟩ := hnode
  apply outcome_entries_of_file
  rcases h name child hchild with ⟨contents, rfl⟩ | ⟨target, location, contents, rfl, hfind⟩
  · rfl
  · simp only [FileNode.sorted, Setting.meet, List.nil_append, hfind]

theorem ne_nil_of_mem_reports_walk {names : List FileName}
    (hmem : names ∈ (fs.walk hidden base).reports) : names ≠ [] := by
  rw [walk_eq] at hmem
  obtain ⟨entry, -, inner, rfl⟩ := prefix_of_mem_reports hmem
  exact List.cons_ne_nil _ _

section Ends

variable (hwf : fs.WellFormed) (hbase : fs.HasDirectory base)
  (hok : (fs.walk hidden base).outcome = .ok ())
include hwf hbase

theorem reaches_base : (fs.walkSetting hidden base).Reaches ⟨base, []⟩ := by
  have hsorted := (hwf.alike_sorted base).hasDirectory hbase
  refine ⟨hsorted, 0, ?_⟩
  rw [List.append_nil]
  exact hwf.sorted.leads_directory hsorted .name

include hok

theorem leads_of_mem_reports_walk {names : List FileName}
    (hmem : names ∈ (fs.walk hidden base).reports) :
    (∀ name ∈ names, name.IsProper ∧ (hidden || !name.isHidden)) ∧
      ∃ n location contents, fs.Leads [] .name (base ++ names) n (.file location contents) := by
  have hreaches : (fs.walkSetting hidden base).Reaches ⟨base, []⟩ := reaches_base hwf hbase
  rw [walk_eq] at hok hmem
  rw [← List.nil_append names] at hmem
  obtain ⟨hall, n, location, contents, hleads⟩ :=
    leads_of_mem_reports hwf.sorted hreaches hok hmem
  obtain ⟨m, hleads⟩ := hwf.leads_sorted_file_iff.1 ⟨n, hleads⟩
  exact ⟨hall, m, location, contents, hleads⟩

/-- The names that lead from the root to a file that a walk reports are proper. -/
theorem isProper_of_mem_reports_walk {names : List FileName}
    (hmem : names ∈ (fs.walk hidden base).reports) : ∀ name ∈ base ++ names, name.IsProper :=
  List.forall_mem_append.2 ⟨(hwf.tree.find? hbase.find?).2, fun name hname =>
    ((leads_of_mem_reports_walk hwf hbase hok hmem).1 name hname).1⟩

/-- A walk that ends well reports the files that names lead to from its base on, if they are looked
at. -/
theorem mem_reports_walk {names : List FileName} :
    names ∈ (fs.walk hidden base).reports ↔
      (∀ name ∈ names, name ≠ upName ∧ (hidden || !name.isHidden)) ∧
        ∃ n location contents, fs.Leads [] .name (base ++ names) n (.file location contents) := by
  constructor
  · intro hmem
    obtain ⟨hall, hfile⟩ := leads_of_mem_reports_walk hwf hbase hok hmem
    exact ⟨fun name hname => ⟨(hall name hname).1.ne_up, (hall name hname).2⟩, hfile⟩
  · rintro ⟨hall, n, location, contents, hleads⟩
    have hreaches : (fs.walkSetting hidden base).Reaches ⟨base, []⟩ := reaches_base hwf hbase
    obtain ⟨m, hleads⟩ := hwf.leads_sorted_file_iff.2 ⟨n, hleads⟩
    rw [walk_eq] at hok ⊢
    exact mem_reports_of_leads hwf.sorted hreaches hok hall hleads

theorem nodup_reports_walk : (fs.walk hidden base).reports.Nodup := by
  have hsorted := (hwf.alike_sorted base).hasDirectory hbase
  rw [walk_eq] at hok ⊢
  exact nodup_reports hwf.sorted (hwf.sorted.entriesAt hsorted) hok

end Ends

end FileSystem

end RouteTable
