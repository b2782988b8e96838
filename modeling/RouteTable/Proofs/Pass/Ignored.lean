import RouteTable.Proofs.Glob.Below
import RouteTable.Proofs.Pass.Hidden

/-!
The files that are no routes by default: those with a name that starts with an underscore, of the
file or of a directory that it is in, as long as the names below that name are of one line.
-/

namespace RouteTable

open Glob Reporting

/-- Whether the names of a path have one that starts with an underscore, with names of one line
below it. -/
def Underscored (names : List (List Char)) : Prop :=
  ∃ front name back, names = front ++ ('_' :: name) :: back ∧ ∀ other ∈ back, '\n' ∉ other

/-- On one line, any name that starts with an underscore is enough. -/
theorem underscored_iff_of_line {names : List (List Char)} (hline : ∀ name ∈ names, '\n' ∉ name) :
    Underscored names ↔ ∃ name, '_' :: name ∈ names := by
  constructor
  · rintro ⟨front, name, back, rfl, -⟩
    exact ⟨name, by simp⟩
  · rintro ⟨name, hmem⟩
    obtain ⟨front, back, rfl⟩ := List.append_of_mem hmem
    refine ⟨front, name, back, rfl, ?_⟩
    intro other hother
    exact hline other (List.mem_append_right _ (List.mem_cons_of_mem _ hother))

namespace Glob

theorem wildcardsMatch_underscore_iff {name : List Char} :
    wildcardsMatch ['_', '*'] name = true ↔ ∃ rest, name = '_' :: rest := by
  rw [wildcardsMatch_literal (by decide) (by decide) (by simp)]
  cases name with
  | nil => simp
  | cons c rest =>
    have hstar : wildcardsMatch ['*'] rest = true := by
      simp only [wildcardsMatch, List.any_eq_true, List.mem_tails]
      exact ⟨[], List.nil_suffix, rfl⟩
    simp [hstar]

theorem segmentsMatch_underscore_iff {names : List (List Char)} :
    segmentsMatch [['*', '*'], ['_', '*']] names = true ↔
      ∃ front name, names = front ++ ['_' :: name] := by
  simp only [segmentsMatch_anyDepth_iff,
    segmentsMatch_cons_iff (by decide : ['_', '*'] ≠ ['*', '*']), segmentsMatch_nil_iff,
    wildcardsMatch_underscore_iff]
  constructor
  · rintro ⟨front, _, rfl, _, _, rfl, ⟨name, rfl⟩, rfl⟩
    exact ⟨front, name, rfl⟩
  · rintro ⟨front, name, rfl⟩
    exact ⟨front, _, rfl, _, _, rfl, ⟨name, rfl⟩, rfl⟩

theorem matchesPath_underscore_iff {ending : Ending} {names : List (List Char)} :
    MatchesPath [['*', '*'], ['_', '*']] ending names ↔
      ∃ front name back, names = front ++ ('_' :: name) :: back ∧ ending.Takes back := by
  have hother : ∃ text ∈ [['*', '*'], ['_', '*']], text ≠ ['*', '*'] :=
    ⟨['_', '*'], by decide, by decide⟩
  simp only [matchesPath_iff_matchesUpTo hother, MatchesUpTo, segmentsMatch_underscore_iff]
  constructor
  · rintro ⟨_, back, rfl, ⟨front, name, rfl⟩, hback⟩
    exact ⟨front, name, back, by simp, hback⟩
  · rintro ⟨front, name, back, rfl, hback⟩
    exact ⟨front ++ ['_' :: name], back, by simp, ⟨front, name, rfl⟩, hback⟩

end Glob

/-- The glob for what starts with an underscore. -/
theorem exists_compile_underscore :
    ∃ language, Glob.compile "**/_*".toList = .ok language ∧ ∀ path, NamesFilled path →
      (language.Matches path ↔
        MatchesPath [['*', '*'], ['_', '*']] .stop (splitSlashes path)) := by
  have hgroup : '{' ∉ "**/_*".toList := by decide
  have hsplit : splitSlashes "**/_*".toList = [['*', '*'], ['_', '*']] := by decide
  have htrimmed : trimmed "**/_*".toList = "**/_*".toList := by decide
  have hfits : Ending.stop.Fits [['*', '*'], ['_', '*']] := by
    intro _
    decide
  have hwell : wellFormed "**/_*".toList = true := by decide
  obtain ⟨read, hread, hreads⟩ := exists_segments (by decide) hwell
  rw [hsplit] at hreads
  obtain ⟨language, hlanguage, hmatches⟩ := exists_pathLanguage_of_reads hreads hfits
  refine ⟨language, (compile_eq_ok_iff_of_no_group hgroup).2 ⟨read, ?_, ?_⟩, hmatches⟩
  · rw [htrimmed, hread]
  · rw [← hlanguage, Ending.segments, List.append_nil]

/-- What the globs of the standard settings ignore. -/
theorem exists_ignores :
    ∃ ignores, GlobSet.compile Config.standard.ignored = .ok ignores ∧
      ∀ path : String, NamesFilled path.toList →
        (ignores.isMatch path = true ↔ Underscored (splitSlashes path.toList)) := by
  obtain ⟨language, hlanguage, hmatches⟩ := exists_compile_underscore
  obtain ⟨below, hbelow, hdeep⟩ :=
    exists_below (by decide) (by decide) (by decide) hlanguage
  have hsplit : splitSlashes (trimmed "**/_*".toList) = [['*', '*'], ['_', '*']] := by decide
  have hglob : CompiledGlob.compile "**/_*" = .ok ⟨"**/_*", language⟩ :=
    compile_source_eq_ok_iff.2 ⟨language, hlanguage, rfl⟩
  have hglobBelow : CompiledGlob.compile "**/_*/**" = .ok ⟨"**/_*/**", below⟩ :=
    compile_source_eq_ok_iff.2 ⟨below, hbelow, rfl⟩
  refine ⟨⟨[⟨"**/_*", language⟩, ⟨"**/_*/**", below⟩]⟩, ?_, ?_⟩
  · rw [GlobSet.compile, Config.standard, mapM_cons_ok hglob (mapM_cons_ok hglobBelow rfl)]
    rfl
  · intro path hpath
    have hbelow := (hdeep path.toList hpath).1
    rw [hsplit, matchesPath_underscore_iff] at hbelow
    have hlast := hmatches path.toList hpath
    rw [matchesPath_underscore_iff] at hlast
    simp only [GlobSet.isMatch, List.any_cons, List.any_nil, Bool.or_false, Bool.or_eq_true,
      CompiledGlob.isMatch, Language.accepts_iff_matches, hlast, hbelow]
    constructor
    · rintro (⟨front, name, back, hnames, rfl⟩ | hunderscored)
      · exact ⟨front, name, [], hnames, by simp⟩
      · exact hunderscored
    · exact Or.inr

/-- The names of a route file are filled. -/
theorem namesFilled_of_mem_findRoutes {config : Config} {fs : FileSystem}
    {files : List RouteModule} (hwf : fs.WellFormed)
    (hfiles : (findRoutes config fs).outcome = .ok files) :
    ∀ file ∈ files, NamesFilled file.relative.toList ∧ ∀ ignores,
      GlobSet.compile config.ignored = .ok ignores → ignores.isMatch file.relative = false := by
  intro file hmem
  obtain ⟨base, includes, ignores, names, hignores, hselects, hne, hproper⟩ :=
    exists_selects_of_mem_findRoutes hwf hfiles hmem
  have hnames : ∀ name ∈ names, name.IsProper := (List.forall_mem_append.1 hproper).2
  obtain ⟨texts, htexts, hsplit⟩ := Discovery.splitOn_relative hselects.relative_eq hne
    fun name hname => (hnames name hname).slash_notMem
  constructor
  · intro chars hchars
    change chars ∈ file.relative.toList.splitOn '/' at hchars
    rw [hsplit] at hchars
    obtain ⟨text, htext, rfl⟩ := List.mem_map.1 hchars
    have hname := (hnames (.ofString text) (htexts ▸ List.mem_map_of_mem htext)).isName
    intro hnil
    have hempty : text = "" := String.toList_injective hnil
    rw [hempty] at hname
    exact absurd hname (by decide)
  · intro others hothers
    cases hignores.symm.trans hothers
    exact List.any_eq_false.2 hselects.spared

/-- A glob without classes and groups that goes on with `/**` matches what the glob leaves of a path
to the `**`, which takes names of one line. On a path of one line, and on every path if the glob
ends in `**` but is not made of `**` alone, this is a path that the glob matches a start of; if the
glob does not end in `**`, it is one that the glob matches a start of with names of one line behind.

By default a path is ignored if one of its names starts with an underscore and those below it are
of one line, which no route file has. -/
theorem isMatch_below_iff {pattern : String} {glob : CompiledGlob}
    (hglob : CompiledGlob.compile pattern = .ok glob) (hclass : '[' ∉ pattern.toList)
    (hgroup : '{' ∉ pattern.toList) (hpoint : pattern ≠ ".") :
    (∃ below, CompiledGlob.compile (pattern ++ "/**") = .ok below ∧
      ∀ path : String, NamesFilled path.toList →
        (below.isMatch path = true ↔
          MatchesPath (splitSlashes (trimmed pattern.toList)) .deep (splitSlashes path.toList)) ∧
        ('\n' ∉ path.toList ∨
            (splitSlashes (trimmed pattern.toList)).getLast? = some ['*', '*'] ∧
              (∃ text ∈ splitSlashes (trimmed pattern.toList), text ≠ ['*', '*']) →
          (below.isMatch path = true ↔ ∃ first back, splitSlashes path.toList = first ++ back ∧
            first ≠ [] ∧ glob.isMatch (String.ofList (joined first)) = true)) ∧
        ((splitSlashes (trimmed pattern.toList)).getLast? ≠ some ['*', '*'] →
          (below.isMatch path = true ↔ ∃ first back, splitSlashes path.toList = first ++ back ∧
            first ≠ [] ∧ glob.isMatch (String.ofList (joined first)) = true ∧
              ∀ name ∈ back, '\n' ∉ name))) ∧
    (∃ ignores, GlobSet.compile Config.standard.ignored = .ok ignores ∧
      ∀ path : String, NamesFilled path.toList →
        (ignores.isMatch path = true ↔ Underscored (splitSlashes path.toList)) ∧
        ('\n' ∉ path.toList →
          (ignores.isMatch path = true ↔ ∃ name, '_' :: name ∈ splitSlashes path.toList))) ∧
    ∀ config fs files, fs.WellFormed → config.ignored = Config.standard.ignored →
      (findRoutes config fs).outcome = .ok files → ∀ file ∈ files,
        ¬ Underscored (splitSlashes file.relative.toList) ∧
        ('\n' ∉ file.relative.toList →
          ∀ name, '_' :: name ∉ splitSlashes file.relative.toList) := by
  have honeLine {path : List Char} (hline : '\n' ∉ path) :
      Underscored (splitSlashes path) ↔ ∃ name, '_' :: name ∈ splitSlashes path :=
    underscored_iff_of_line fun name hmem hnewline =>
      hline ((mem_of_mem_splitSlashes hmem).2 _ hnewline)
  refine ⟨?_, ?_, ?_⟩
  · obtain ⟨language, hlanguage, rfl⟩ := compile_source_eq_ok_iff.1 hglob
    have hpoint' : pattern.toList ≠ ['.'] := fun heq =>
      hpoint (String.toList_injective (heq : pattern.toList = ".".toList))
    obtain ⟨below, hbelow, hmatches⟩ := exists_below hclass hgroup hpoint' hlanguage
    refine ⟨⟨pattern ++ "/**", below⟩, compile_source_eq_ok_iff.2 ⟨below, ?_, rfl⟩, ?_⟩
    · rw [String.toList_append]
      exact hbelow
    · intro path hpath
      simp only [CompiledGlob.isMatch, Language.accepts_iff_matches, String.toList_ofList]
      exact hmatches path.toList hpath
  · obtain ⟨ignores, hignores, hiff⟩ := exists_ignores
    refine ⟨ignores, hignores, ?_⟩
    intro path hpath
    exact ⟨hiff path hpath, fun hline => (hiff path hpath).trans (honeLine hline)⟩
  · intro config fs files hwf hdefault hfiles file hmem
    obtain ⟨ignores, hignores, hiff⟩ := exists_ignores
    obtain ⟨hfilled, hspared⟩ := namesFilled_of_mem_findRoutes hwf hfiles file hmem
    have hnone : ¬ Underscored (splitSlashes file.relative.toList) := by
      rw [← hiff file.relative hfilled, hspared ignores (hdefault ▸ hignores)]
      exact Bool.false_ne_true
    exact ⟨hnone, fun hline name hname => hnone ((honeLine hline).2 ⟨name, hname⟩)⟩

/-- What is below a match is matched, also where the match itself is of several lines. -/
theorem isMatch_below_docs :
    ∃ glob below, CompiledGlob.compile "docs/*" = .ok glob ∧
      CompiledGlob.compile "docs/*/**" = .ok below ∧ '[' ∉ "docs/*".toList ∧
        '{' ∉ "docs/*".toList ∧ "docs/*" ≠ "." ∧ below.isMatch "docs/a\nb/c.ts" = true := by
  obtain ⟨glob, hglob, hmatch⟩ := exists_ok_of_any
    (by decide +kernel : (CompiledGlob.compile "docs/*").toOption.any (·.isMatch "docs/a\nb"))
  obtain ⟨below, hbelow, hmatches⟩ :=
    (isMatch_below_iff hglob (by decide) (by decide) (by decide)).1
  have hfilled : NamesFilled "docs/a\nb/c.ts".toList := by
    unfold NamesFilled
    decide
  have hlast : (splitSlashes (trimmed "docs/*".toList)).getLast? ≠ some ['*', '*'] := by
    decide
  have hsplit : splitSlashes "docs/a\nb/c.ts".toList =
      ["docs".toList, "a\nb".toList] ++ ["c.ts".toList] := by
    decide
  have hjoined : String.ofList (joined ["docs".toList, "a\nb".toList]) = "docs/a\nb" := by
    apply String.toList_injective
    rw [String.toList_ofList]
    decide
  have hback : ∀ name ∈ ["c.ts".toList], '\n' ∉ name := by
    decide
  have hiff := (hmatches "docs/a\nb/c.ts" hfilled).2.2 hlast
  rw [← hjoined] at hmatch
  exact ⟨glob, below, hglob, hbelow, by decide, by decide, by decide,
    hiff.2 ⟨_, _, hsplit, by simp, hmatch, hback⟩⟩

/-- A file whose name has a line break is not below its directory for the globs of the standard
settings. -/
theorem isMatch_below_lineBreak :
    (CompiledGlob.compile "**/_*").toOption.map (·.isMatch "_x") = some true ∧
      (CompiledGlob.compile ("**/_*" ++ "/**")).toOption.map (·.isMatch "_x/a\nb.ts") =
        some false ∧
      (GlobSet.compile Config.standard.ignored).toOption.map (·.isMatch "_x/a\nb.ts") =
        some false ∧
      splitSlashes "_x/a\nb.ts".toList = ["_x".toList, "a\nb.ts".toList] := by
  refine ⟨?_, ?_, ?_, by decide⟩
  · decide +kernel
  · decide +kernel
  · decide +kernel

end RouteTable
