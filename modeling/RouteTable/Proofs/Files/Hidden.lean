import RouteTable.Proofs.Files.Entering

/-!
Walks through file systems that differ in what is not looked at only. They go the same way, unless a
link that is not looked at stops one of them.
-/

namespace RouteTable

open Reporting

def Walk.Met.bare : Walk.Met → Walk.Met
  | .file => .file
  | .directory location _ => .directory location []

/-- The cases of two walks that meet the same. -/
theorem Walk.Met.cases_of_map_bare_eq {first second : Except WalkFault Walk.Met}
    (h : first.map bare = second.map bare) :
    (∃ fault, first = .error fault ∧ second = .error fault) ∨
      (first = .ok .file ∧ second = .ok .file) ∨
      ∃ location inside inside', first = .ok (.directory location inside) ∧
        second = .ok (.directory location inside') := by
  rcases first with fault | (_ | ⟨location, inside⟩)
  · rcases second with fault' | met'
    · cases h
      exact .inl ⟨fault, rfl, rfl⟩
    · cases h
  · rcases second with fault' | (_ | ⟨location', inside'⟩)
    · cases h
    · exact .inr (.inl ⟨rfl, rfl⟩)
    · cases h
  · rcases second with fault' | (_ | ⟨location', inside'⟩)
    · cases h
    · cases h
    · cases h
      exact .inr (.inr ⟨location, inside, inside', rfl, rfl⟩)

namespace Walk

variable {setting : Setting} {fs' : FileSystem} {outer : List Place} {place : Place}
  {name : FileName} {names : List FileName}

def Setting.on (setting : Setting) (fs' : FileSystem) : Setting :=
  { setting with fs := fs' }

/-- Whether paths of names that are looked at go past locations only where another file system is
alike. -/
def Setting.AgreesWith (setting : Setting) (fs' : FileSystem) : Prop :=
  ∀ names, (∀ name ∈ names, setting.shows name) →
    ∀ seen, setting.fs.LooksAt [] (setting.base ++ names) seen → setting.fs.Alike fs' seen

namespace Setting.AgreesWith

variable (h : setting.AgreesWith fs')
include h

theorem find_congr (hshown : ∀ name ∈ names, setting.shows name) :
    (setting.find names).map Found.bare = ((setting.on fs').find names).map Found.bare := by
  have htoolong : (setting.on fs').isTooLong names = setting.isTooLong names := rfl
  rw [Setting.find, Setting.find, htoolong]
  split
  · rfl
  · exact FileSystem.follow_congr (h names hshown)

/-- The entries of a directory that a walk goes into are alike, if they are looked at. -/
theorem alike_entry (hplace : setting.Reaches place)
    (hshown : ∀ name ∈ place.names, setting.shows name) (hname : setting.shows name)
    (hup : name ≠ FileSystem.upName) : setting.fs.Alike fs' (place.location ++ [name]) := by
  obtain ⟨n, hleads⟩ := hplace.leads
  apply h (place.names ++ [name])
  · exact List.forall_mem_append.2 ⟨hshown, List.forall_mem_singleton.2 hname⟩
  · rw [← List.append_assoc]
    exact .of_leads hleads rfl (.here hup)

end Setting.AgreesWith

section Shown

def Setting.shownOf (setting : Setting) (entries : FileEntries) : FileEntries :=
  entries.filter fun entry => setting.shows entry.1

def bareOf (entries : FileEntries) : FileEntries :=
  entries.map fun entry => (entry.1, entry.2.bare)

theorem mem_bareOf_shownOf {entries : FileEntries} {node : FileNode} :
    (name, node) ∈ bareOf (setting.shownOf entries) ↔
      setting.shows name ∧ ∃ child, (name, child) ∈ entries ∧ child.bare = node := by
  rw [bareOf, List.mem_map]
  constructor
  · rintro ⟨⟨name, child⟩, hmem, heq⟩
    obtain ⟨hmem, hshown⟩ := List.mem_filter.1 hmem
    cases heq
    exact ⟨hshown, child, hmem, rfl⟩
  · rintro ⟨hshown, child, hmem, rfl⟩
    exact ⟨(name, child), List.mem_filter.2 ⟨hmem, hshown⟩, rfl⟩

theorem pairwise_bareOf_shownOf {entries : FileEntries}
    (h : entries.Pairwise fun a b => a.1 < b.1) :
    (bareOf (setting.shownOf entries)).Pairwise fun a b => a.1 < b.1 :=
  List.pairwise_map.2 (h.filter _)

/-- Without faults among hidden entries, a walk passes them. -/
theorem entries_shownOf {fresh : List Location} {stack : List Place} {remaining : FileEntries}
    (h : ∀ entry ∈ remaining, setting.shows entry.1 = false →
      ∃ met, setting.meet fresh stack place entry.1 entry.2 = .ok met) :
    entries setting fresh stack place (setting.shownOf remaining) =
      entries setting fresh stack place remaining := by
  induction remaining with
  | nil => rfl
  | cons entry rest ih =>
    obtain ⟨hentry, hrest⟩ := List.forall_mem_cons.1 h
    rw [Setting.shownOf, List.filter_cons, ← Setting.shownOf]
    by_cases hshown : setting.shows entry.1
    · rw [if_pos hshown, entries_cons, ih hrest, ← entries_cons]
    · have hhidden := Bool.not_eq_true _ ▸ hshown
      obtain ⟨met, hmeet⟩ := hentry hhidden
      rw [if_neg hshown, entries_cons entry, entries_of_hidden hmeet hhidden, pure_bind, ih hrest]

end Shown

section Lockstep

variable (hwf : setting.fs.WellFormed) (hwf' : fs'.WellFormed) (h : setting.AgreesWith fs')
include hwf hwf' h

/-- A directory that both walks go into has the same entries that are looked at. -/
theorem bareOf_shownOf_entriesAt (hplace : setting.Reaches place)
    (hplace' : (setting.on fs').Reaches place)
    (hshown : ∀ name ∈ place.names, setting.shows name)
    (hsorted : (setting.fs.entriesAt place.location).Pairwise fun a b => a.1 < b.1)
    (hsorted' : (fs'.entriesAt place.location).Pairwise fun a b => a.1 < b.1) :
    bareOf (setting.shownOf (setting.fs.entriesAt place.location)) =
      bareOf (setting.shownOf (fs'.entriesAt place.location)) := by
  apply eq_of_pairwise_lt (pairwise_bareOf_shownOf hsorted) (pairwise_bareOf_shownOf hsorted')
  rintro ⟨name, node⟩
  rw [mem_bareOf_shownOf, mem_bareOf_shownOf]
  refine and_congr_right fun hname => ?_
  have halike : setting.fs.Alike fs' (place.location ++ [name]) := by
    by_cases hup : name = FileSystem.upName
    · rw [hup, FileSystem.Alike, hwf.find?_up, hwf'.find?_up]
    · exact h.alike_entry hplace hshown hname hup
  have hmem' (child : FileNode) : (name, child) ∈ fs'.entriesAt place.location ↔ _ :=
    hwf'.mem_entriesAt hplace'.hasDirectory
  simp only [hwf.mem_entriesAt hplace.hasDirectory, hmem', ← Option.map_eq_some_iff]
  exact Eq.congr_left halike

/-- Entries that are looked at and alike are met alike. -/
theorem meet_congr {node node' : FileNode} {stack : List Place}
    (hshown : ∀ shown ∈ place.names ++ [name], setting.shows shown)
    (hbare : node.bare = node'.bare) :
    (setting.meet (setting.fresh stack) stack place name node).map Met.bare =
      ((setting.on fs').meet ((setting.on fs').fresh stack) stack place name node').map
        Met.bare := by
  cases node with
  | file contents =>
    cases node' with
    | file => rfl
    | link => cases hbare
    | directory => cases hbare
  | directory inside =>
    cases node' with
    | file => cases hbare
    | link => cases hbare
    | directory => rfl
  | link target =>
    cases node' with
    | file => cases hbare
    | directory => cases hbare
    | link target' =>
      rcases Found.cases_of_map_bare_eq (h.find_congr hshown) with ⟨fault, hfind, hfind'⟩ |
        ⟨location, contents, hfind, hfind'⟩ | ⟨location, inside, inside', hfind, hfind'⟩ |
          ⟨location, hfind, hfind'⟩
      · simp only [Setting.meet, hfind, hfind']
        rfl
      · simp only [Setting.meet, hfind, hfind']
      · have hdirectory := (Setting.reaches_of_find hwf hfind).1.hasDirectory
        have hdirectory' := (Setting.reaches_of_find hwf' hfind').1.hasDirectory
        have hfresh : location ∈ setting.fresh stack ↔ location ∈ (setting.on fs').fresh stack := by
          rw [Setting.mem_fresh_iff hwf, Setting.mem_fresh_iff hwf']
          exact and_congr_left fun _ => iff_of_true hdirectory hdirectory'
        simp only [Setting.meet, hfind, hfind', hfresh]
        split
        · rfl
        · rfl
      · simp only [Setting.meet, hfind, hfind']
        rfl

/-- Two walks that meet alike and go on alike from there do the same for one entry. -/
theorem entries_singleton_congr {node node' : FileNode} {stack : List Place}
    (hshown : ∀ shown ∈ place.names ++ [name], setting.shows shown)
    (hbare : node.bare = node'.bare)
    (hinner : ∀ location inside inside',
      setting.meet (setting.fresh stack) stack place name node =
        .ok (.directory location inside) →
      (setting.on fs').meet ((setting.on fs').fresh stack) stack place name node' =
        .ok (.directory location inside') →
      entries setting ((setting.fresh stack).erase location)
          (⟨location, place.names ++ [name]⟩ :: stack) ⟨location, place.names ++ [name]⟩ inside =
        entries (setting.on fs') (((setting.on fs').fresh stack).erase location)
          (⟨location, place.names ++ [name]⟩ :: stack) ⟨location, place.names ++ [name]⟩
          inside') :
    entries setting (setting.fresh stack) stack place [(name, node)] =
      entries (setting.on fs') ((setting.on fs').fresh stack) stack place [(name, node')] := by
  have hname : setting.shows name := hshown name (by simp)
  have hname' : (setting.on fs').shows name := hname
  rcases Met.cases_of_map_bare_eq (meet_congr hwf hwf' h hshown hbare) with
    ⟨fault, hmeet, hmeet'⟩ | ⟨hmeet, hmeet'⟩ | ⟨location, inside, inside', hmeet, hmeet'⟩
  · rw [entries_of_error hmeet, entries_of_error hmeet']
  · rw [entries_of_file hmeet hname, entries_of_file hmeet' hname']
  · have htoolong (names : List FileName) :
        (setting.on fs').isTooLong names = setting.isTooLong names := rfl
    rw [entries_of_directory hmeet hname, entries_of_directory hmeet' hname', htoolong,
      hinner location inside inside' hmeet hmeet']
    rfl

/-- Walks that meet no hidden fault go the same way through directories that they both go into. -/
theorem entries_congr (hbase : setting.fs.HasDirectory setting.base)
    (hbase' : fs'.HasDirectory setting.base)
    (hsorted : ∀ location, setting.fs.HasDirectory location →
      (setting.fs.entriesAt location).Pairwise fun a b => a.1 < b.1)
    (hsorted' : ∀ location, fs'.HasDirectory location →
      (fs'.entriesAt location).Pairwise fun a b => a.1 < b.1)
    (hfault : ¬ setting.HidesFault) (hfault' : ¬ (setting.on fs').HidesFault)
    {fresh : List Location} {stack : List Place} {remaining : FileEntries}
    (hstack : stack = place :: outer) (hfresh : fresh = setting.fresh stack)
    (henters : setting.Enters outer place) (henters' : (setting.on fs').Enters outer place)
    (hremaining : ∀ entry ∈ remaining,
      setting.fs.root.find? (place.location ++ [entry.1]) = some entry.2)
    {remaining' : FileEntries}
    (hremaining' : ∀ entry ∈ remaining',
      fs'.root.find? (place.location ++ [entry.1]) = some entry.2)
    (hbare : bareOf (setting.shownOf remaining) = bareOf remaining') :
    entries setting fresh stack place remaining =
      entries (setting.on fs') ((setting.on fs').fresh stack) stack place remaining' := by
  -- Along the first walk. The second is given only the entries that are looked at, which is the
  -- same to it by `entries_shownOf`, and goes on where the first walk looks at an entry.
  induction fresh, stack, place, remaining using entries_induction setting generalizing outer
    remaining' with
  | nil =>
    obtain rfl := List.map_eq_nil_iff.1 hbare.symm
    rw [entries_nil, entries_nil]
  | cons fresh stack place name node rest ih_inside ih_rest =>
    subst hstack hfresh
    obtain ⟨hnode, hrest⟩ := List.forall_mem_cons.1 hremaining
    rw [entries_cons]
    by_cases hshown : setting.shows name
    · rw [Setting.shownOf, List.filter_cons, if_pos hshown, ← Setting.shownOf, bareOf,
        List.map_cons] at hbare
      obtain ⟨⟨name', node'⟩, rest', rfl, heq, hbareRest⟩ := List.map_eq_cons_iff.1 hbare.symm
      obtain ⟨rfl, hsame⟩ := Prod.mk.inj heq
      obtain ⟨hnode', hrest'⟩ := List.forall_mem_cons.1 hremaining'
      have hnames := List.forall_mem_append.2 ⟨henters.shown, List.forall_mem_singleton.2 hshown⟩
      rw [entries_cons (name', node'),
        ih_rest rfl rfl henters henters' hrest hrest' hbareRest.symm,
        entries_singleton_congr hwf hwf' h hnames hsame.symm]
      intro location inside inside' hmeet hmeet'
      obtain ⟨hinner, rfl⟩ := henters.inner hwf hshown hnode hmeet
      obtain ⟨hinner', rfl⟩ := henters'.inner hwf' hshown hnode' hmeet'
      have hreaches := hinner.reaches hwf hbase
      have hreaches' := hinner'.reaches hwf' hbase'
      have hpass := entries_shownOf fun entry hmem hhidden =>
        hinner'.exists_meet_hidden hwf' hfault' hhidden
          (hwf'.find?_of_mem hreaches'.hasDirectory hmem)
      refine Eq.trans ?_ hpass
      apply ih_inside location _ hmeet rfl rfl hinner hinner'
      · exact fun entry hmem => hwf.find?_of_mem hreaches.hasDirectory hmem
      · intro entry hmem
        exact hwf'.find?_of_mem hreaches'.hasDirectory (List.mem_filter.1 hmem).1
      · exact bareOf_shownOf_entriesAt hwf hwf' h hreaches hreaches' hinner.shown
          (hsorted location hreaches.hasDirectory) (hsorted' location hreaches'.hasDirectory)
    · have hhidden := Bool.not_eq_true _ ▸ hshown
      obtain ⟨met, hmeet⟩ := henters.exists_meet_hidden hwf hfault hhidden hnode
      rw [entries_of_hidden hmeet hhidden, Reporting.pure_bind]
      rw [Setting.shownOf, List.filter_cons, if_neg hshown, ← Setting.shownOf] at hbare
      exact ih_rest rfl rfl henters henters' hrest hremaining' hbare

end Lockstep

end Walk

namespace FileSystem

open Walk

variable {fs fs' : FileSystem} {base : Location}

/-- Whether a location is that of a hidden entry below a base, or inside of one. -/
def IsHiddenBelow (base location : Location) : Prop :=
  ∃ inner, location = base ++ inner ∧ ∃ name ∈ inner, name.isHidden

/-- Whether file systems have the same everywhere but at hidden entries below a base and inside of
them. -/
def SameBesidesHidden (fs fs' : FileSystem) (base : Location) : Prop :=
  ∀ location, ¬ IsHiddenBelow base location → fs.Alike fs' location

/-- Whether the hidden entries are the same that paths of names that are not hidden go through, as
they do behind links. -/
def SameBehindLinks (fs fs' : FileSystem) (base : Location) : Prop :=
  ∀ names : List FileName, (∀ name ∈ names, ¬ name.isHidden) →
    ∀ seen, fs.LooksAt [] (base ++ names) seen → IsHiddenBelow base seen → fs.Alike fs' seen

/-- Hidden entries make no difference to a walk that does not look at them, unless it cannot pass a
hidden link. -/
theorem walk_eq_of_sameBesidesHidden (hwf : fs.WellFormed) (hwf' : fs'.WellFormed)
    (hbase : fs.HasDirectory base) (hbase' : fs'.HasDirectory base)
    (hsame : fs.SameBesidesHidden fs' base) (hlinks : fs.SameBehindLinks fs' base)
    (hfault : ¬ (fs.walkSetting false base).HidesFault)
    (hfault' : ¬ (fs'.walkSetting false base).HidesFault) :
    fs.walk false base = fs'.walk false base := by
  have hsorted := (hwf.alike_sorted base).hasDirectory hbase
  have hsorted' := (hwf'.alike_sorted base).hasDirectory hbase'
  have hagrees : (fs.walkSetting false base).AgreesWith fs'.sorted := by
    intro names hshown seen hseen
    have hseen := hwf.looksAt_sorted_iff.1 hseen
    have hnames : ∀ name ∈ names, ¬ name.isHidden := by
      intro name hname
      simpa [Setting.shows, walkSetting] using hshown name hname
    have halike : fs.Alike fs' seen := by
      by_cases hhidden : IsHiddenBelow base seen
      · exact hlinks names hnames seen hseen hhidden
      · exact hsame seen hhidden
    exact ((hwf.alike_sorted seen).symm.trans halike).trans (hwf'.alike_sorted seen)
  have hpass := entries_shownOf fun entry hmem hhidden =>
    Setting.Enters.base.exists_meet_hidden hwf'.sorted hfault' hhidden
      (hwf'.sorted.find?_of_mem hsorted' hmem)
  rw [walk_eq, walk_eq]
  refine Eq.trans ?_ hpass
  apply entries_congr hwf.sorted hwf'.sorted hagrees hsorted hsorted'
    (fun _ => hwf.pairwise_entriesAt_sorted) (fun _ => hwf'.pairwise_entriesAt_sorted)
    hfault hfault' rfl rfl .base .base
  · exact fun entry hmem => hwf.sorted.find?_of_mem hsorted hmem
  · exact fun entry hmem => hwf'.sorted.find?_of_mem hsorted' (List.mem_filter.1 hmem).1
  · exact bareOf_shownOf_entriesAt hwf.sorted hwf'.sorted hagrees (reaches_base hwf hbase)
      (reaches_base hwf' hbase') (List.forall_mem_nil _) (hwf.pairwise_entriesAt_sorted hsorted)
      (hwf'.pairwise_entriesAt_sorted hsorted')

theorem not_hidesFault_of_walk_ok (hwf : fs.WellFormed) (hbase : fs.HasDirectory base)
    (hok : (fs.walk false base).outcome = .ok ()) :
    ¬ (fs.walkSetting false base).HidesFault := by
  have hsorted := (hwf.alike_sorted base).hasDirectory hbase
  exact Setting.not_hidesFault_of_ok hwf.sorted hsorted hok

end FileSystem

end RouteTable
