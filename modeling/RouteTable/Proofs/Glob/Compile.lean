import RouteTable.Proofs.Glob.Endings
import RouteTable.Proofs.Glob.Alternatives

/-!
Which globs compile, and what a compiled glob matches, for globs without character classes: those
whose groups are closed and whose spellings are paths of segments, and the paths that the segments
of a spelling match.
-/

namespace RouteTable

namespace Glob

/-- A glob without groups that is one choice of alternatives for the groups of a glob. -/
def IsSpelling (glob spelling : List Char) : Prop :=
  ∃ spelled, Spells false glob spelled ∧ spelling ∈ spelled

theorem isSpelling_iff {glob spelling : List Char} {spelled : List (List Char)}
    (h : Spells false glob spelled) : IsSpelling glob spelling ↔ spelling ∈ spelled := by
  constructor
  · rintro ⟨others, hothers, hmem⟩
    cases (spellings_eq_some hothers).symm.trans (spellings_eq_some h)
    exact hmem
  · intro hmem
    exact ⟨spelled, h, hmem⟩

/-- Whether a path is made of segments that are not empty, on one line. -/
structure IsPath (path : List Char) : Prop where
  ne_nil : ∀ name ∈ splitSlashes path, name ≠ []
  no_newline : '\n' ∉ path

/-- Whether no segment of a path is empty. -/
def NamesFilled (path : List Char) : Prop :=
  ∀ name ∈ splitSlashes path, name ≠ []

theorem NamesFilled.isFilled {path : List Char} (h : NamesFilled path) :
    ∀ name ∈ splitSlashes path, IsFilled name := by
  intro name hmem
  exact ⟨h name hmem, (mem_of_mem_splitSlashes hmem).1⟩

/-- A path is its first segment with the others, and a slash before each, behind it. -/
theorem exists_slashed (path : List Char) :
    ∃ name names, splitSlashes path = name :: names ∧ path = name ++ slashed names := by
  obtain ⟨name, names, hsplit⟩ :=
    List.exists_cons_of_ne_nil (List.splitOnP_ne_nil (· == '/') path)
  change splitSlashes path = name :: names at hsplit
  refine ⟨name, names, hsplit, ?_⟩
  rw [← intercalate_slash_cons, ← hsplit]
  exact (List.intercalate_splitOn '/').symm

theorem IsPath.exists_names {path : List Char} (h : IsPath path) :
    ∃ name names, splitSlashes path = name :: names ∧ path = name ++ slashed names ∧
      IsName name ∧ ∀ name ∈ names, IsName name := by
  have hnames : ∀ name ∈ splitSlashes path, IsName name := fun name hmem =>
    have hchars := mem_of_mem_splitSlashes hmem
    ⟨h.ne_nil name hmem, hchars.1, fun hc => h.no_newline (hchars.2 _ hc)⟩
  obtain ⟨name, names, hsplit, hpath⟩ := exists_slashed path
  rw [hsplit, List.forall_mem_cons] at hnames
  exact ⟨name, names, hsplit, hpath, hnames⟩

/-- The expression of a glob whose spellings are well formed. -/
theorem exists_compile {glob : List Char} {spelled : List (List Char)} (hclass : '[' ∉ trimmed glob)
    (hne : trimmed glob ≠ []) (hspelled : Spells false (trimmed glob) spelled)
    (hwell : ∀ spelling ∈ spelled, wellFormed spelling = true) :
    ∃ language, compile glob = .ok language ∧ ∀ path, IsPath path →
      (language.Matches path ↔
        ∃ spelling ∈ spelled,
          segmentsMatch (splitSlashes spelling) (splitSlashes path) = true) := by
  obtain ⟨read, hread, hpaths⟩ := exists_mapM_ok (f := segments) fun spelling hmem =>
    exists_pathLanguage (fun hc => hclass (hspelled.mem_of_mem hmem hc)) (hwell spelling hmem)
  obtain ⟨languages, hlanguages, hmatches⟩ := exists_mapM_ok_of_forall₂ hpaths
  cases languages with
  | nil =>
    cases hmatches
    exact absurd rfl hspelled.ne_nil
  | cons first rest =>
    refine ⟨.anyOf first rest, ?_, fun path hpath => ?_⟩
    · rw [compile, if_neg (by simpa using hne), spellings_eq_some hspelled]
      change (spelled.mapM segments >>= _) = _
      rw [hread]
      change (read.mapM pathLanguage >>= _) = _
      rw [hlanguages]
      rfl
    · obtain ⟨name, names, hsplit, hjoin, hname, hnames⟩ := hpath.exists_names
      rw [Language.matches_anyOf_iff, hsplit, hjoin]
      exact (exists_mem_iff_of_forall₂ hmatches fun _ _ h => (h name names hname hnames).symm).symm

theorem compile_of_empty {glob : List Char} (h : trimmed glob = []) :
    compile glob = .error .empty := by
  rw [compile, if_pos (by simpa using h)]
  rfl

theorem compile_of_open {glob : List Char} (hne : trimmed glob ≠ [])
    (h : spellings (trimmed glob) = none) : compile glob = .error .unclosedGroup := by
  rw [compile, if_neg (by simpa using hne), h]
  rfl

theorem exists_compile_error {glob spelling : List Char} {spelled : List (List Char)}
    (hclass : '[' ∉ trimmed glob) (hne : trimmed glob ≠ [])
    (hspelled : Spells false (trimmed glob) spelled) (hmem : spelling ∈ spelled)
    (hwell : wellFormed spelling = false) : ∃ fault, compile glob = .error fault := by
  have hclass' : '[' ∉ spelling := fun hc => hclass (hspelled.mem_of_mem hmem hc)
  obtain ⟨fault, hfault⟩ := exists_mapM_error hmem (exists_segments_error hclass' hwell)
  refine ⟨fault, ?_⟩
  rw [compile, if_neg (by simpa using hne), spellings_eq_some hspelled]
  change (spelled.mapM segments >>= _) = _
  rw [hfault]
  rfl

/-- A glob that has no expression has a fault in its groups or in one of its spellings; one that has
matches the paths that the segments of a spelling match. -/
theorem compile_cases {glob : List Char} (hclass : '[' ∉ trimmed glob) :
    (∃ language, compile glob = .ok language ∧
      (trimmed glob ≠ [] ∧ groupsClosed 0 (trimmed glob) = true ∧
        ∀ spelling, IsSpelling (trimmed glob) spelling → wellFormed spelling = true) ∧
      ∀ path, IsPath path → (language.Matches path ↔ ∃ spelling,
        IsSpelling (trimmed glob) spelling ∧
          segmentsMatch (splitSlashes spelling) (splitSlashes path) = true)) ∨
    ∃ fault, compile glob = .error fault ∧
      ¬ (trimmed glob ≠ [] ∧ groupsClosed 0 (trimmed glob) = true ∧
        ∀ spelling, IsSpelling (trimmed glob) spelling → wellFormed spelling = true) := by
  by_cases hne : trimmed glob = []
  · exact Or.inr ⟨.empty, compile_of_empty hne, fun h => h.1 hne⟩
  rcases spells_or_open (classesClosed_of_not_mem hclass) with
    ⟨hclosed, spelled, hspelled⟩ | ⟨hopen, hnone⟩
  · simp only [isSpelling_iff hspelled]
    by_cases hwell : ∀ spelling ∈ spelled, wellFormed spelling = true
    · obtain ⟨language, hlanguage, hmatches⟩ := exists_compile hclass hne hspelled hwell
      exact Or.inl ⟨language, hlanguage, ⟨hne, hclosed, hwell⟩, hmatches⟩
    · have hbad := hwell
      simp only [not_forall, Bool.not_eq_true] at hbad
      obtain ⟨spelling, hmem, hspelling⟩ := hbad
      obtain ⟨fault, hfault⟩ := exists_compile_error hclass hne hspelled hmem hspelling
      exact Or.inr ⟨fault, hfault, fun h => hwell h.2.2⟩
  · refine Or.inr ⟨.unclosedGroup, compile_of_open hne hnone, fun h => ?_⟩
    rw [hopen] at h
    cases h.2.1

theorem mem_of_mem_trimmed {glob : List Char} {c : Char} (h : c ∈ trimmed glob) : c ∈ glob := by
  unfold trimmed at h
  split at h
  · exact List.mem_of_mem_drop h
  · exact h

/-- A glob that is its own only spelling compiles exactly if its segments can be read and
translated. -/
theorem compile_eq_ok_iff_of_spellings {glob : List Char} (hne : trimmed glob ≠ [])
    (hspellings : spellings (trimmed glob) = some [trimmed glob]) {language : Language} :
    compile glob = .ok language ↔
      ∃ read, segments (trimmed glob) = .ok read ∧ pathLanguage read = .ok language := by
  rw [compile, if_neg (by simpa using hne), hspellings]
  change ([trimmed glob].mapM segments >>= _) = _ ↔ _
  rw [List.mapM_cons, List.mapM_nil]
  cases hread : segments (trimmed glob) with
  | error fault => exact iff_of_false (by intro h; cases h) (by rintro ⟨_, h, -⟩; cases h)
  | ok read =>
    simp only [Except.ok.injEq, exists_eq_left']
    change ([read].mapM pathLanguage >>= _) = _ ↔ _
    rw [List.mapM_cons, List.mapM_nil]
    cases pathLanguage read with
    | error fault => exact iff_of_false (by intro h; cases h) (by intro h; cases h)
    | ok found => exact Iff.rfl

/-- A glob without groups compiles exactly if its segments can be read and translated. -/
theorem compile_eq_ok_iff_of_no_group {glob : List Char} (hgroup : '{' ∉ glob)
    {language : Language} :
    compile glob = .ok language ↔
      ∃ read, segments (trimmed glob) = .ok read ∧ pathLanguage read = .ok language := by
  by_cases hne : trimmed glob = []
  · rw [compile_of_empty hne, hne]
    refine iff_of_false (by intro h; cases h) ?_
    rintro ⟨read, hread, -⟩
    cases hread
  exact compile_eq_ok_iff_of_spellings hne
    (spellings_of_no_group fun h => hgroup (mem_of_mem_trimmed h))

end Glob

theorem compile_source_eq_ok_iff {pattern : String} {glob : CompiledGlob} :
    CompiledGlob.compile pattern = .ok glob ↔
      ∃ language, Glob.compile pattern.toList = .ok language ∧ glob = ⟨pattern, language⟩ := by
  rw [CompiledGlob.compile]
  cases Glob.compile pattern.toList with
  | error fault => exact iff_of_false (by intro h; cases h) (by rintro ⟨_, h, _⟩; cases h)
  | ok language => simp [eq_comm]

/-- A glob without classes compiles exactly if it is not empty, its groups are closed and all its
spellings are well formed, and then matches the paths that the segments of a spelling match. -/
theorem compile_iff_spellings_wellFormed (pattern : String) (hclass : '[' ∉ pattern.toList) :
    ((∃ glob, CompiledGlob.compile pattern = .ok glob) ↔
      Glob.trimmed pattern.toList ≠ [] ∧ Glob.groupsClosed 0 (Glob.trimmed pattern.toList) = true ∧
        ∀ spelling, Glob.IsSpelling (Glob.trimmed pattern.toList) spelling →
          Glob.wellFormed spelling = true) ∧
    ∀ glob, CompiledGlob.compile pattern = .ok glob → ∀ path : String, Glob.IsPath path.toList →
      (glob.isMatch path = true ↔
        ∃ spelling, Glob.IsSpelling (Glob.trimmed pattern.toList) spelling ∧
          Glob.segmentsMatch (Glob.splitSlashes spelling) (Glob.splitSlashes path.toList) =
            true) := by
  have htrimmed : '[' ∉ Glob.trimmed pattern.toList := fun h => hclass (Glob.mem_of_mem_trimmed h)
  rcases Glob.compile_cases htrimmed with
    ⟨language, hlanguage, hgood, hmatches⟩ | ⟨fault, hfault, hbad⟩
  · have hcompile : CompiledGlob.compile pattern = .ok ⟨pattern, language⟩ := by
      rw [CompiledGlob.compile, hlanguage]
    refine ⟨iff_of_true ⟨_, hcompile⟩ hgood, ?_⟩
    intro glob hglob path hpath
    cases hcompile.symm.trans hglob
    rw [CompiledGlob.isMatch, Glob.Language.accepts_iff_matches]
    exact hmatches path.toList hpath
  · have hcompile : CompiledGlob.compile pattern = .error ⟨pattern, fault⟩ := by
      rw [CompiledGlob.compile, hfault]
    refine ⟨iff_of_false ?_ hbad, ?_⟩
    · rintro ⟨glob, hglob⟩
      cases hcompile.symm.trans hglob
    · intro glob hglob
      cases hcompile.symm.trans hglob

/-- A `**` takes a directory in another one, and no alternative goes on into a further segment. -/
theorem compile_directories_and_alternatives :
    (∃ glob, CompiledGlob.compile "./a/**/{b,?c}" = .ok glob) ∧
      ∀ glob, CompiledGlob.compile "./a/**/{b,?c}" = .ok glob →
        glob.isMatch "a/x/y/dc" = true ∧ glob.isMatch "a/b/x" = false := by
  obtain ⟨hcompile, hmatch⟩ :=
    compile_iff_spellings_wellFormed "./a/**/{b,?c}" (by decide)
  have hspelled : Glob.Spells false (Glob.trimmed "./a/**/{b,?c}".toList)
      ["a/**/b".toList, "a/**/?c".toList] :=
    (Glob.spellings_eq_some_iff (Glob.classesClosed_of_not_mem (by decide))).1 (by decide +kernel)
  simp only [Glob.isSpelling_iff hspelled] at hcompile hmatch
  refine ⟨hcompile.2 ⟨by decide, by decide +kernel, by decide⟩, ?_⟩
  intro glob hglob
  constructor
  · rw [hmatch glob hglob "a/x/y/dc" ⟨by decide, by decide⟩]
    decide
  · rw [← Bool.not_eq_true, hmatch glob hglob "a/b/x" ⟨by decide, by decide⟩]
    decide

end RouteTable
