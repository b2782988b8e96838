import RouteTable.Proofs.Glob.Compile

/-!
Globs that go on with `/**`, for what is below that which a glob matches. What such a glob matches
is a match of the glob with more names behind it; as its `**` stands at the end, these are names of
one line. A glob that ends in `**` itself takes these names with its own `**`, which is not at the
end any more.
-/

namespace RouteTable.Glob

section Lists

variable {front texts names : List (List Char)} {ending : Ending}

/-- On one line, a glob with `/**` behind it matches what is at or below a match of the glob. -/
theorem matchesPath_deep_iff_of_line (hfits : ending.Fits front)
    (hending : ending = .stop ∧ texts = front ∨ ending = .deep ∧ texts = front ++ [['*', '*']])
    (htexts : texts ≠ []) (hne : names ≠ []) (hline : ∀ name ∈ names, '\n' ∉ name) :
    MatchesPath texts .deep names ↔
      ∃ first back, names = first ++ back ∧ first ≠ [] ∧ MatchesPath front ending first := by
  have hfirst {first back : List (List Char)} (hnames : names = first ++ back) (h : first ≠ []) :
      MatchesPath front ending first ↔ segmentsMatch texts first = true := by
    apply matchesPath_iff_of_line hfits hending h
    intro name hmem
    exact hline name (hnames ▸ List.mem_append_left _ hmem)
  rw [matchesPath_iff_of_line (Ending.fits_deep texts) (Or.inr ⟨rfl, rfl⟩) hne hline,
    segmentsMatch_append_anyDepth_iff]
  constructor
  · rintro ⟨first, back, hnames, hmatch⟩
    by_cases hnil : first = []
    · rw [hnil, segmentsMatch_no_names_iff] at hmatch
      have hall := segmentsMatch_of_forall htexts hmatch names
      have hwhole : names = names ++ [] := (List.append_nil names).symm
      exact ⟨names, [], hwhole, hne, (hfirst hwhole hne).2 hall⟩
    · exact ⟨first, back, hnames, hnil, (hfirst hnames hnil).2 hmatch⟩
  · rintro ⟨first, back, hnames, hnil, hmatch⟩
    exact ⟨first, back, hnames, (hfirst hnames hnil).1 hmatch⟩

/-- A glob whose last segment is not `**` leaves names of one line to the `**` behind it. -/
theorem matchesPath_deep_iff_of_stop (hfits : Ending.stop.Fits texts) (htexts : texts ≠ []) :
    MatchesPath texts .deep names ↔
      ∃ first back, names = first ++ back ∧ first ≠ [] ∧ MatchesPath texts .stop first ∧
        ∀ name ∈ back, '\n' ∉ name := by
  obtain ⟨text, hmem, htext⟩ := hfits.exists_ne htexts
  have hstop (first : List (List Char)) :
      MatchesPath texts .stop first ↔ segmentsMatch texts first = true := by
    rw [matchesPath_iff_matchesUpTo ⟨text, hmem, htext⟩]
    constructor
    · rintro ⟨_, back, rfl, hmatch, rfl⟩
      rwa [List.append_nil]
    · intro hmatch
      exact ⟨first, [], (List.append_nil first).symm, hmatch, rfl⟩
  have hne {first : List (List Char)} (hmatch : segmentsMatch texts first = true) :
      first ≠ [] := by
    rintro rfl
    exact htext (segmentsMatch_no_names_iff.1 hmatch text hmem)
  rw [matchesPath_iff_matchesUpTo ⟨text, hmem, htext⟩]
  constructor
  · rintro ⟨first, back, hnames, hmatch, hback⟩
    exact ⟨first, back, hnames, hne hmatch, (hstop first).2 hmatch, hback⟩
  · rintro ⟨first, back, hnames, -, hmatch, hback⟩
    exact ⟨first, back, hnames, (hstop first).1 hmatch, hback⟩

/-- A `**` in front of the last one takes names of any lines. -/
theorem matchesPath_deep_iff_of_deep (h : ∃ text ∈ front, text ≠ ['*', '*']) :
    MatchesPath (front ++ [['*', '*']]) .deep names ↔
      ∃ first back, names = first ++ back ∧ first ≠ [] ∧ MatchesPath front .deep first := by
  have hlater : ∃ text ∈ front ++ [['*', '*']], text ≠ ['*', '*'] := by
    obtain ⟨text, hmem, htext⟩ := h
    exact ⟨text, List.mem_append_left _ hmem, htext⟩
  rw [matchesPath_iff_matchesUpTo hlater]
  simp only [matchesPath_iff_matchesUpTo h, MatchesUpTo, segmentsMatch_append_anyDepth_iff]
  constructor
  · rintro ⟨_, back, rfl, ⟨first, middle, rfl, hmatch⟩, -⟩
    refine ⟨first, middle ++ back, List.append_assoc .., ?_, first, [],
      (List.append_nil first).symm, hmatch, by simp [Ending.Takes]⟩
    rintro rfl
    obtain ⟨text, hmem, htext⟩ := h
    exact htext (segmentsMatch_no_names_iff.1 hmatch text hmem)
  · rintro ⟨_, back, rfl, -, first, middle, rfl, hmatch, -⟩
    exact ⟨first ++ middle ++ back, [], (List.append_nil _).symm,
      ⟨first, middle ++ back, List.append_assoc .., hmatch⟩, by simp [Ending.Takes]⟩

end Lists

section Compiled

variable {glob path : List Char} {language : Language}

/-- Segments with an ending behind them have an expression, which matches what they match. -/
theorem exists_pathLanguage_of_reads {front : List (List Char)} {read : List Segment}
    {ending : Ending} (hreads : List.Forall₂ Reads front read) (hfits : ending.Fits front) :
    ∃ language, pathLanguage (read ++ ending.segments) = .ok language ∧
      ∀ path, NamesFilled path →
        (language.Matches path ↔ MatchesPath front ending (splitSlashes path)) := by
  obtain ⟨languages, hlanguages, hmatches⟩ := exists_languages_before hreads hfits
  refine ⟨.sequence languages, ?_, ?_⟩
  · rw [pathLanguage, hlanguages]
    rfl
  · intro path hpath
    obtain ⟨name, names, hsplit, heq⟩ := exists_slashed path
    have hfilled := hpath.isFilled
    rw [hsplit, List.forall_mem_cons] at hfilled
    rw [hsplit, ← hmatches name names hfilled.1 hfilled.2, ← heq]

theorem matches_iff_matchesPath {front : List (List Char)} {read : List Segment} {ending : Ending}
    (hreads : List.Forall₂ Reads front read) (hfits : ending.Fits front)
    (h : pathLanguage (read ++ ending.segments) = .ok language) (hpath : NamesFilled path) :
    language.Matches path ↔ MatchesPath front ending (splitSlashes path) := by
  obtain ⟨other, hother, hmatches⟩ := exists_pathLanguage_of_reads hreads hfits
  cases h.symm.trans hother
  exact hmatches path hpath

/-- The segments of a glob that compiles, without classes and groups. -/
theorem exists_reads_of_compile (hclass : '[' ∉ glob) (hgroup : '{' ∉ glob)
    (h : compile glob = .ok language) :
    ∃ read, segments (trimmed glob) = .ok read ∧ pathLanguage read = .ok language ∧
      List.Forall₂ Reads (splitSlashes (trimmed glob)) read := by
  obtain ⟨read, hread, hlanguage⟩ := (compile_eq_ok_iff_of_no_group hgroup).1 h
  have hclass' : '[' ∉ trimmed glob := fun hc => hclass (mem_of_mem_trimmed hc)
  refine ⟨read, hread, hlanguage, ?_⟩
  cases hwell : wellFormed (trimmed glob) with
  | true =>
    obtain ⟨others, hothers, hreads⟩ := exists_segments hclass' hwell
    cases hread.symm.trans hothers
    exact hreads
  | false =>
    obtain ⟨fault, hfault⟩ := exists_segments_error hclass' hwell
    cases hread.symm.trans hfault

/-- Only a lone point in front of a slash is taken for the mark of a relative path. -/
theorem trimmed_append_slash (hpoint : glob ≠ ['.']) (s : List Char) :
    trimmed (glob ++ '/' :: s) = trimmed glob ++ '/' :: s := by
  rcases glob with _ | ⟨c, _ | ⟨d, glob⟩⟩
  · rfl
  · have hc : c ≠ '.' := fun hc => hpoint (by rw [hc])
    simp [trimmed, Ne.symm hc]
  · by_cases hprefix : c = '.' ∧ d = '/'
    · obtain ⟨rfl, rfl⟩ := hprefix
      rfl
    · have hne : ¬ ('.' = c ∧ '/' = d) := fun heq => hprefix ⟨heq.1.symm, heq.2.symm⟩
      simp [trimmed, hne]

theorem segments_append_anyDepth {spelling : List Char} {read : List Segment}
    (h : segments spelling = .ok read) :
    segments (spelling ++ ['/', '*', '*']) = .ok (read ++ [.anyDepth]) := by
  rw [segments] at h
  split at h
  · cases h
  · rename_i hrelative
    obtain ⟨c, rest, rfl⟩ : ∃ c rest, spelling = c :: rest := by
      apply List.exists_cons_of_ne_nil
      rintro rfl
      cases h
    have hsplit := splitSlashes_append_slash (c :: rest) ['*', '*']
    rw [segments, if_neg (by simpa using hrelative), hsplit, List.mapM_append, h]
    rfl

/-- With `/**` behind it, a glob still compiles. -/
theorem exists_compile_below (hclass : '[' ∉ glob) (hgroup : '{' ∉ glob) (hpoint : glob ≠ ['.'])
    (h : compile glob = .ok language) :
    ∃ below, compile (glob ++ ['/', '*', '*']) = .ok below ∧
      ∀ path, NamesFilled path → (below.Matches path ↔
        MatchesPath (splitSlashes (trimmed glob)) .deep (splitSlashes path)) := by
  obtain ⟨read, hread, -, hreads⟩ := exists_reads_of_compile hclass hgroup h
  obtain ⟨below, hbelow, hmatches⟩ := exists_pathLanguage_of_reads hreads (Ending.fits_deep _)
  have hgroup' : '{' ∉ glob ++ ['/', '*', '*'] := by simpa using hgroup
  refine ⟨below, (compile_eq_ok_iff_of_no_group hgroup').2 ?_, hmatches⟩
  rw [trimmed_append_slash hpoint]
  exact ⟨_, segments_append_anyDepth hread, hbelow⟩

def joined (names : List (List Char)) : List Char :=
  ['/'].intercalate names

theorem splitSlashes_joined {names : List (List Char)} (hne : names ≠ [])
    (hslash : ∀ name ∈ names, '/' ∉ name) : splitSlashes (joined names) = names :=
  List.splitOn_intercalate '/' hslash hne

/-- What a glob matches of the start of a path. -/
theorem matches_joined_iff {front first back : List (List Char)} {read : List Segment}
    {ending : Ending} (hreads : List.Forall₂ Reads front read) (hfits : ending.Fits front)
    (h : pathLanguage (read ++ ending.segments) = .ok language) (hpath : NamesFilled path)
    (hsplit : splitSlashes path = first ++ back) (hne : first ≠ []) :
    language.Matches (joined first) ↔ MatchesPath front ending first := by
  have hfilled : ∀ name ∈ first, IsFilled name := by
    intro name hmem
    exact hpath.isFilled name (hsplit ▸ List.mem_append_left back hmem)
  have hjoined := splitSlashes_joined hne fun name hmem => (hfilled name hmem).no_slash
  have hnames : NamesFilled (joined first) := by
    rw [NamesFilled, hjoined]
    exact fun name hmem => (hfilled name hmem).ne_nil
  rw [matches_iff_matchesPath hreads hfits h hnames, hjoined]

/-- A glob with `/**` behind it matches what is at or below a match of the glob, as long as the
names below it are of one line or a `**` of the glob takes them. -/
theorem exists_below (hclass : '[' ∉ glob) (hgroup : '{' ∉ glob) (hpoint : glob ≠ ['.'])
    (h : compile glob = .ok language) :
    ∃ below, compile (glob ++ ['/', '*', '*']) = .ok below ∧
      ∀ path, NamesFilled path →
        (below.Matches path ↔
          MatchesPath (splitSlashes (trimmed glob)) .deep (splitSlashes path)) ∧
        ('\n' ∉ path ∨ (splitSlashes (trimmed glob)).getLast? = some ['*', '*'] ∧
            (∃ text ∈ splitSlashes (trimmed glob), text ≠ ['*', '*']) →
          (below.Matches path ↔ ∃ first back, splitSlashes path = first ++ back ∧ first ≠ [] ∧
            language.Matches (joined first))) ∧
        ((splitSlashes (trimmed glob)).getLast? ≠ some ['*', '*'] →
          (below.Matches path ↔ ∃ first back, splitSlashes path = first ++ back ∧ first ≠ [] ∧
            language.Matches (joined first) ∧ ∀ name ∈ back, '\n' ∉ name)) := by
  obtain ⟨read, -, hlanguage, hreads⟩ := exists_reads_of_compile hclass hgroup h
  obtain ⟨below, hbelow, hmatches⟩ := exists_compile_below hclass hgroup hpoint h
  have htexts : splitSlashes (trimmed glob) ≠ [] := List.splitOnP_ne_nil _ _
  generalize splitSlashes (trimmed glob) = texts at hreads hmatches htexts
  obtain ⟨front, segments, ending, hfront, hfits, rfl, hending⟩ := exists_ending hreads
  refine ⟨below, hbelow, ?_⟩
  intro path hpath
  have hfirst {first back : List (List Char)} (hsplit : splitSlashes path = first ++ back)
      (hne : first ≠ []) : language.Matches (joined first) ↔ MatchesPath front ending first :=
    matches_joined_iff hfront hfits hlanguage hpath hsplit hne
  rw [hmatches path hpath]
  refine ⟨Iff.rfl, ?_, ?_⟩
  · intro hline
    have hdeep : MatchesPath texts .deep (splitSlashes path) ↔
        ∃ first back, splitSlashes path = first ++ back ∧ first ≠ [] ∧
          MatchesPath front ending first := by
      rcases hline with hline | ⟨hlast, text, hmem, htext⟩
      · apply matchesPath_deep_iff_of_line hfits hending htexts (List.splitOnP_ne_nil _ _)
        intro name hmem hnewline
        exact hline ((mem_of_mem_splitSlashes hmem).2 _ hnewline)
      · rcases hending with ⟨rfl, rfl⟩ | ⟨rfl, rfl⟩
        · exact absurd hlast (hfits rfl)
        · apply matchesPath_deep_iff_of_deep
          refine ⟨text, (List.mem_append.1 hmem).resolve_right ?_, htext⟩
          exact fun hmem => htext (List.mem_singleton.1 hmem)
    rw [hdeep]
    constructor
    · rintro ⟨first, back, hsplit, hne, hmatch⟩
      exact ⟨first, back, hsplit, hne, (hfirst hsplit hne).2 hmatch⟩
    · rintro ⟨first, back, hsplit, hne, hmatch⟩
      exact ⟨first, back, hsplit, hne, (hfirst hsplit hne).1 hmatch⟩
  · intro hlast
    rcases hending with ⟨rfl, rfl⟩ | ⟨rfl, rfl⟩
    · rw [matchesPath_deep_iff_of_stop hfits htexts]
      constructor
      · rintro ⟨first, back, hsplit, hne, hmatch, hback⟩
        exact ⟨first, back, hsplit, hne, (hfirst hsplit hne).2 hmatch, hback⟩
      · rintro ⟨first, back, hsplit, hne, hmatch, hback⟩
        exact ⟨first, back, hsplit, hne, (hfirst hsplit hne).1 hmatch, hback⟩
    · exact absurd List.getLast?_concat hlast

end Compiled

end RouteTable.Glob
