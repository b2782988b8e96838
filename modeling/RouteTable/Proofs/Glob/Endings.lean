import RouteTable.Proofs.Glob.Segments

/-!
The expression that the segments of a glob are translated to. It puts the slashes between them,
before or after a `**` depending on where it stands, and matches the paths that the segments match,
but for what a `**` at the end takes: that is on one line.
-/

namespace RouteTable.Glob

/-- A segment of a glob as it is written, and as it is read. -/
inductive Reads : List Char → Segment → Prop where
  | anyDepth : Reads ['*', '*'] .anyDepth
  | within {text : List Char} {pieces : List Piece} {language : Language}
      (htext : text ≠ ['*', '*']) (hlanguage : segmentLanguage pieces = .ok language)
      (hmatch : ∀ name, language.Matches name ↔ '/' ∉ name ∧ wildcardsMatch text name = true) :
      Reads text (.within pieces)

/-- What stands behind the segments of a glob: nothing, or `**` as the last segment of all. -/
inductive Ending where
  | stop
  | deep

namespace Ending

def segments : Ending → List Segment
  | stop => []
  | deep => [.anyDepth]

/-- The names of a path that are left for an ending. A `**` at the end takes names of one line. -/
def Takes : Ending → List (List Char) → Prop
  | stop, names => names = []
  | deep, names => ∀ name ∈ names, '\n' ∉ name

/-- Segments that have the ending behind them do not end in `**` themselves, if there is nothing. -/
def Fits (ending : Ending) (texts : List (List Char)) : Prop :=
  ending = stop → texts.getLast? ≠ some ['*', '*']

variable {ending : Ending} {text : List Char} {texts : List (List Char)}

theorem fits_deep (texts : List (List Char)) : Ending.deep.Fits texts := by
  intro hstop
  cases hstop

/-- Segments that do not end in `**` are not all `**`, if there are any. -/
theorem Fits.exists_ne (h : Ending.stop.Fits texts) (hne : texts ≠ []) :
    ∃ text ∈ texts, text ≠ ['*', '*'] := by
  refine ⟨texts.getLast hne, List.getLast_mem hne, ?_⟩
  intro hlast
  apply h rfl
  rw [List.getLast?_eq_some_getLast hne, hlast]

theorem Fits.tail (h : ending.Fits (text :: texts)) : ending.Fits texts := by
  intro hstop
  cases texts with
  | nil => simp
  | cons second texts =>
    rw [← List.getLast?_cons_cons (a := text)]
    exact h hstop

theorem Fits.append_segments_ne_nil (h : ending.Fits (['*', '*'] :: texts)) {read : List Segment}
    (hlength : texts.length = read.length) : read ++ ending.segments ≠ [] := by
  cases ending with
  | stop =>
    intro hnil
    have hread := (List.append_eq_nil_iff.1 hnil).1
    rw [hread, List.length_nil, List.length_eq_zero_iff] at hlength
    rw [hlength] at h
    exact h rfl rfl
  | deep => simp [segments]

end Ending

/-- Segments of a glob match a start of the names, and leave the others to the ending. -/
def MatchesUpTo (texts : List (List Char)) (ending : Ending) (names : List (List Char)) : Prop :=
  ∃ front back, names = front ++ back ∧ segmentsMatch texts front = true ∧ ending.Takes back

/-- The same at the start of a path. Segments that are all `**` have a slash behind each of the
names they take, so that they leave a name to the ending. -/
def MatchesPath (texts : List (List Char)) (ending : Ending) (names : List (List Char)) : Prop :=
  ∃ front back, names = front ++ back ∧ segmentsMatch texts front = true ∧ ending.Takes back ∧
    ((∀ text ∈ texts, text = ['*', '*']) → back ≠ [])

section Names

variable {text : List Char} {texts names : List (List Char)} {ending : Ending}

theorem matchesUpTo_nil_iff : MatchesUpTo [] ending names ↔ ending.Takes names := by
  simp only [MatchesUpTo, segmentsMatch_nil_iff]
  constructor
  · rintro ⟨_, back, rfl, rfl, h⟩
    exact h
  · intro h
    exact ⟨[], names, rfl, rfl, h⟩

theorem matchesUpTo_cons_iff (htext : text ≠ ['*', '*']) :
    MatchesUpTo (text :: texts) ending names ↔
      ∃ name rest, names = name :: rest ∧ wildcardsMatch text name = true ∧
        MatchesUpTo texts ending rest := by
  simp only [MatchesUpTo, segmentsMatch_cons_iff htext]
  constructor
  · rintro ⟨_, back, rfl, ⟨name, front, rfl, hname, hfront⟩, hback⟩
    exact ⟨name, front ++ back, rfl, hname, front, back, rfl, hfront, hback⟩
  · rintro ⟨name, _, rfl, hname, front, back, rfl, hfront, hback⟩
    exact ⟨name :: front, back, rfl, ⟨name, front, rfl, hname, hfront⟩, hback⟩

theorem matchesUpTo_anyDepth_iff :
    MatchesUpTo (['*', '*'] :: texts) ending names ↔
      ∃ first rest, names = first ++ rest ∧ MatchesUpTo texts ending rest := by
  simp only [MatchesUpTo, segmentsMatch_anyDepth_iff]
  constructor
  · rintro ⟨_, back, rfl, ⟨first, front, rfl, hfront⟩, hback⟩
    exact ⟨first, front ++ back, List.append_assoc .., front, back, rfl, hfront, hback⟩
  · rintro ⟨first, _, rfl, front, back, rfl, hfront, hback⟩
    exact ⟨first ++ front, back, (List.append_assoc ..).symm, ⟨first, front, rfl, hfront⟩, hback⟩

/-- A segment that is not `**` makes no difference between the start of a path and elsewhere. -/
theorem matchesPath_iff_matchesUpTo (h : ∃ text ∈ texts, text ≠ ['*', '*']) :
    MatchesPath texts ending names ↔ MatchesUpTo texts ending names := by
  obtain ⟨text, hmem, htext⟩ := h
  constructor
  · rintro ⟨front, back, hnames, hfront, hback, -⟩
    exact ⟨front, back, hnames, hfront, hback⟩
  · rintro ⟨front, back, hnames, hfront, hback⟩
    exact ⟨front, back, hnames, hfront, hback, fun hall => absurd (hall text hmem) htext⟩

theorem matchesPath_nil_iff : MatchesPath [] ending names ↔ ending.Takes names ∧ names ≠ [] := by
  simp only [MatchesPath, segmentsMatch_nil_iff]
  constructor
  · rintro ⟨_, back, rfl, rfl, h, hne⟩
    exact ⟨h, hne (by simp)⟩
  · rintro ⟨h, hne⟩
    exact ⟨[], names, rfl, rfl, h, fun _ => hne⟩

theorem matchesPath_anyDepth_iff :
    MatchesPath (['*', '*'] :: texts) ending names ↔
      ∃ first rest, names = first ++ rest ∧ rest ≠ [] ∧ MatchesPath texts ending rest := by
  simp only [MatchesPath, segmentsMatch_anyDepth_iff, List.forall_mem_cons, true_and]
  constructor
  · rintro ⟨_, back, rfl, ⟨first, front, rfl, hfront⟩, hback, hall⟩
    refine ⟨first, front ++ back, List.append_assoc .., ?_, front, back, rfl, hfront, hback, hall⟩
    intro hnil
    obtain ⟨rfl, rfl⟩ := List.append_eq_nil_iff.1 hnil
    exact hall (segmentsMatch_no_names_iff.1 hfront) rfl
  · rintro ⟨first, _, rfl, -, front, back, rfl, hfront, hback, hall⟩
    exact ⟨first ++ front, back, (List.append_assoc ..).symm, ⟨first, front, rfl, hfront⟩, hback,
      hall⟩

end Names

theorem pathLanguages_anyDepth_cons {separated : Bool} {rest : List Segment}
    {languages : List Language} (hne : rest ≠ [])
    (h : pathLanguages separated rest = .ok languages) :
    pathLanguages separated (.anyDepth :: rest) =
      .ok (.star (if separated then .seq slash segmentText else .seq segmentText slash) ::
        languages) := by
  rw [pathLanguages, h]
  · rfl
  · exact hne

theorem pathLanguages_within_cons {separated : Bool} {pieces : List Piece} {language : Language}
    {rest : List Segment} {languages : List Language}
    (hlanguage : segmentLanguage pieces = .ok language)
    (h : pathLanguages true rest = .ok languages) :
    pathLanguages separated (.within pieces :: rest) =
      .ok (if separated then slash :: language :: languages else language :: languages) := by
  rw [pathLanguages, hlanguage, h]
  rfl

/-- A segment that is not `**`, in front of segments that match what goes on behind it. -/
theorem matches_within_iff {text : List Char} {language : Language} {languages : List Language}
    {name : List Char} {names : List (List Char)} {later : Prop}
    (hmatch : ∀ name, language.Matches name ↔ '/' ∉ name ∧ wildcardsMatch text name = true)
    (hboundary : ∀ s, (Language.sequence languages).Matches s → Boundary s)
    (hrest : (Language.sequence languages).Matches (slashed names) ↔ later)
    (hname : IsFilled name) :
    (Language.sequence (language :: languages)).Matches (name ++ slashed names) ↔
      wildcardsMatch text name = true ∧ later := by
  rw [Language.matches_sequence_cons_iff]
  simp only [hmatch, ← hrest]
  constructor
  · rintro ⟨u, v, huv, ⟨hslash, hu⟩, hv⟩
    obtain ⟨rfl, rfl⟩ := eq_of_append_boundary hname.no_slash hslash (boundary_slashed names)
      (hboundary v hv) huv
    exact ⟨hu, hv⟩
  · rintro ⟨hu, hv⟩
    exact ⟨name, slashed names, rfl, ⟨hname.no_slash, hu⟩, hv⟩

/-- What is behind all the other segments matches the names that the ending takes. -/
theorem exists_languages_of_ending (ending : Ending) :
    ∃ languages, pathLanguages true ending.segments = .ok languages ∧
      (∀ text, (Language.sequence languages).Matches text → Boundary text) ∧
      ∀ names, (Language.sequence languages).Matches (slashed names) ↔ ending.Takes names := by
  cases ending with
  | stop =>
    refine ⟨[], rfl, ?_, ?_⟩
    · intro text htext
      rw [Language.matches_empty_iff.1 htext]
      exact .nil
    · intro names
      rw [Language.sequence, Language.matches_empty_iff]
      cases names with
      | nil => exact iff_of_true rfl rfl
      | cons name names => exact iff_of_false (by simp) (by simp [Ending.Takes])
  | deep =>
    refine ⟨[.optional (.seq slash lineText)], rfl, ?_, ?_⟩
    · intro text htext
      rcases Language.matches_alt_iff.1 htext with htext | htext
      · obtain ⟨u, v, rfl, hu, -⟩ := Language.matches_seq_iff.1 htext
        rw [matches_slash_iff.1 hu]
        exact .slash _
      · rw [Language.matches_empty_iff.1 htext]
        exact .nil
    · intro names
      rw [Ending.Takes, ← newline_not_mem_slashed_iff]
      change (Language.optional (.seq slash lineText)).Matches _ ↔ _
      rw [Language.optional, Language.matches_alt_iff, Language.matches_empty_iff,
        Language.matches_seq_iff]
      simp only [matches_slash_iff, matches_lineText_iff]
      cases names with
      | nil => simp
      | cons name names =>
        rw [slashed_cons, List.mem_cons, not_or]
        constructor
        · rintro (⟨u, v, huv, rfl, hv⟩ | hnil)
          · rw [(List.cons.inj huv).2]
            exact ⟨by decide, hv⟩
          · cases hnil
        · rintro ⟨-, hline⟩
          exact Or.inl ⟨['/'], name ++ slashed names, rfl, rfl, hline⟩

/-- Segments that go on behind others match paths with a slash before each name. -/
theorem exists_languages_separated {texts : List (List Char)} {read : List Segment}
    {ending : Ending} (h : List.Forall₂ Reads texts read) (hfits : ending.Fits texts) :
    ∃ languages, pathLanguages true (read ++ ending.segments) = .ok languages ∧
      (∀ text, (Language.sequence languages).Matches text → Boundary text) ∧
      ∀ names, (∀ name ∈ names, IsFilled name) →
        ((Language.sequence languages).Matches (slashed names) ↔
          MatchesUpTo texts ending names) := by
  induction h with
  | nil =>
    obtain ⟨languages, hlanguages, hboundary, hmatches⟩ := exists_languages_of_ending ending
    refine ⟨languages, hlanguages, hboundary, ?_⟩
    intro names _
    rw [matchesUpTo_nil_iff, hmatches]
  | @cons text segment texts read hread hrest ih =>
    obtain ⟨languages, hlanguages, hboundary, hmatches⟩ := ih hfits.tail
    cases hread with
    | within htext hlanguage hmatch =>
      refine ⟨_, pathLanguages_within_cons hlanguage hlanguages, ?_, ?_⟩
      · intro s hs
        obtain ⟨u, v, rfl, hu, -⟩ := Language.matches_sequence_cons_iff.1 hs
        rw [matches_slash_iff.1 hu]
        exact .slash _
      · intro names hnames
        rw [if_pos rfl, Language.matches_sequence_cons_iff, matchesUpTo_cons_iff htext]
        simp only [matches_slash_iff]
        cases names with
        | nil => simp
        | cons name names =>
          have hnext := hmatches names fun n hn => hnames n (List.mem_cons_of_mem _ hn)
          have hwithin :=
            matches_within_iff hmatch hboundary hnext (hnames name List.mem_cons_self)
          simp [hwithin]
    | anyDepth =>
      have hne := hfits.append_segments_ne_nil hrest.length_eq
      refine ⟨_, pathLanguages_anyDepth_cons hne hlanguages, ?_, ?_⟩
      · intro s hs
        obtain ⟨u, v, rfl, hu, hv⟩ := Language.matches_sequence_cons_iff.1 hs
        exact boundary_append_of_matches hu (hboundary v hv)
      · intro names hnames
        rw [if_pos rfl, Language.matches_sequence_cons_iff, matchesUpTo_anyDepth_iff]
        constructor
        · rintro ⟨u, v, huv, hu, hv⟩
          obtain ⟨first, rest, rfl, rfl⟩ :=
            exists_append_of_slashed hnames (hboundary v hv) huv.symm hu
          exact ⟨first, rest, rfl,
            (hmatches rest fun n hn => hnames n (List.mem_append_right _ hn)).1 hv⟩
        · rintro ⟨first, rest, rfl, hrest⟩
          exact ⟨slashed first, slashed rest, slashed_append _ _,
            matches_star_slashed fun n hn => hnames n (List.mem_append_left _ hn),
            (hmatches rest fun n hn => hnames n (List.mem_append_right _ hn)).2 hrest⟩

/-- An ending that has the whole path to itself. -/
theorem exists_languages_of_ending_alone (ending : Ending) :
    ∃ languages, pathLanguages false ending.segments = .ok languages ∧
      ∀ name names, IsFilled name →
        ((Language.sequence languages).Matches (name ++ slashed names) ↔
          ending.Takes (name :: names)) := by
  cases ending with
  | stop =>
    refine ⟨[], rfl, ?_⟩
    intro name names hname
    rw [Language.sequence, Language.matches_empty_iff]
    exact iff_of_false (by simp [hname.ne_nil]) (by simp [Ending.Takes])
  | deep =>
    refine ⟨[lineText], rfl, ?_⟩
    intro name names hname
    change lineText.Matches _ ↔ _
    rw [matches_lineText_iff, Ending.Takes, List.forall_mem_cons, ← newline_not_mem_slashed_iff,
      List.mem_append, not_or]

/-- Segments in front match the names of a path with a slash between them. -/
theorem exists_languages_before {texts : List (List Char)} {read : List Segment} {ending : Ending}
    (h : List.Forall₂ Reads texts read) (hfits : ending.Fits texts) :
    ∃ languages, pathLanguages false (read ++ ending.segments) = .ok languages ∧
      ∀ name names, IsFilled name → (∀ name ∈ names, IsFilled name) →
        ((Language.sequence languages).Matches (name ++ slashed names) ↔
          MatchesPath texts ending (name :: names)) := by
  induction h with
  | nil =>
    obtain ⟨languages, hlanguages, hmatches⟩ := exists_languages_of_ending_alone ending
    refine ⟨languages, hlanguages, ?_⟩
    intro name names hname _
    rw [hmatches name names hname, matchesPath_nil_iff, and_iff_left (by simp)]
  | @cons text segment texts read hread hrest ih =>
    cases hread with
    | within htext hlanguage hmatch =>
      obtain ⟨languages, hlanguages, hboundary, hmatches⟩ :=
        exists_languages_separated hrest hfits.tail
      refine ⟨_, pathLanguages_within_cons hlanguage hlanguages, ?_⟩
      intro name names hname hnames
      rw [matchesPath_iff_matchesUpTo ⟨text, List.mem_cons_self, htext⟩,
        matchesUpTo_cons_iff htext]
      have hwithin := matches_within_iff hmatch hboundary (hmatches names hnames) hname
      simp [hwithin]
    | anyDepth =>
      obtain ⟨languages, hlanguages, hmatches⟩ := ih hfits.tail
      have hne := hfits.append_segments_ne_nil hrest.length_eq
      refine ⟨_, pathLanguages_anyDepth_cons hne hlanguages, ?_⟩
      intro name names hname hnames
      have hall : ∀ n ∈ name :: names, IsFilled n := List.forall_mem_cons.2 ⟨hname, hnames⟩
      rw [if_neg (by decide), Language.matches_sequence_cons_iff, matchesPath_anyDepth_iff]
      constructor
      · rintro ⟨u, v, huv, hu, hv⟩
        obtain ⟨first, last, rest, hsplit, rfl⟩ :=
          exists_append_of_intercalate hname hnames huv.symm hu
        rw [hsplit] at hall ⊢
        have hlast := List.forall_mem_cons.1 (List.forall_mem_append.1 hall).2
        exact ⟨first, last :: rest, rfl, by simp, (hmatches last rest hlast.1 hlast.2).1 hv⟩
      · rintro ⟨first, rest, hsplit, hrest, hmatch⟩
        obtain ⟨last, rest, rfl⟩ := List.exists_cons_of_ne_nil hrest
        rw [hsplit] at hall
        obtain ⟨hfirst, hlast⟩ := List.forall_mem_append.1 hall
        rw [List.forall_mem_cons] at hlast
        exact ⟨first.flatMap (· ++ ['/']), last ++ slashed rest,
          (flatMap_append_eq first last rest hsplit).symm, matches_star_flatMap hfirst,
          (hmatches last rest hlast.1 hlast.2).2 hmatch⟩

/-- The segments of a glob are segments with an ending behind them. -/
theorem exists_ending {texts : List (List Char)} {read : List Segment}
    (h : List.Forall₂ Reads texts read) :
    ∃ front segments ending, List.Forall₂ Reads front segments ∧ Ending.Fits ending front ∧
      read = segments ++ ending.segments ∧
        (ending = .stop ∧ texts = front ∨ ending = .deep ∧ texts = front ++ [['*', '*']]) := by
  induction h with
  | nil => exact ⟨[], [], .stop, .nil, fun _ => by simp, rfl, Or.inl ⟨rfl, rfl⟩⟩
  | @cons text segment texts read hread hrest ih =>
    obtain ⟨front, segments, ending, hreads, hfits, rfl, ⟨rfl, rfl⟩ | ⟨rfl, rfl⟩⟩ := ih
    · cases texts with
      | nil =>
        cases hreads
        cases hread with
        | anyDepth =>
          exact ⟨[], [], .deep, .nil, Ending.fits_deep [], rfl, Or.inr ⟨rfl, rfl⟩⟩
        | within htext hlanguage hmatch =>
          refine ⟨[text], [_], .stop, .cons (.within htext hlanguage hmatch) .nil, ?_, rfl,
            Or.inl ⟨rfl, rfl⟩⟩
          intro _ heq
          exact htext (Option.some.inj heq)
      | cons second texts =>
        refine ⟨text :: second :: texts, segment :: segments, .stop, .cons hread hreads, ?_, rfl,
          Or.inl ⟨rfl, rfl⟩⟩
        intro hstop
        rw [List.getLast?_cons_cons]
        exact hfits hstop
    · exact ⟨text :: front, segment :: segments, .deep, .cons hread hreads,
        Ending.fits_deep _, rfl, Or.inr ⟨rfl, rfl⟩⟩

/-- On one line it makes no difference where the segments of a glob end. -/
theorem matchesPath_iff_of_line {front texts names : List (List Char)} {ending : Ending}
    (hfits : ending.Fits front)
    (hending : ending = .stop ∧ texts = front ∨ ending = .deep ∧ texts = front ++ [['*', '*']])
    (hne : names ≠ []) (hline : ∀ name ∈ names, '\n' ∉ name) :
    MatchesPath front ending names ↔ segmentsMatch texts names = true := by
  rcases hending with ⟨rfl, rfl⟩ | ⟨rfl, rfl⟩
  · constructor
    · rintro ⟨_, back, rfl, hfront, rfl, -⟩
      rwa [List.append_nil]
    · intro h
      have htexts : texts ≠ [] := by
        rintro rfl
        exact hne (segmentsMatch_nil_iff.1 h)
      rw [matchesPath_iff_matchesUpTo (hfits.exists_ne htexts)]
      exact ⟨names, [], (List.append_nil names).symm, h, rfl⟩
  · rw [segmentsMatch_append_anyDepth_iff]
    constructor
    · rintro ⟨_, back, rfl, hfront, -, -⟩
      exact ⟨_, back, rfl, hfront⟩
    · rintro ⟨first, back, rfl, hfront⟩
      by_cases hall : ∀ text ∈ front, text = ['*', '*']
      · exact ⟨[], first ++ back, rfl, segmentsMatch_no_names_iff.2 hall, hline, fun _ => hne⟩
      · simp only [not_forall, exists_prop] at hall
        rw [matchesPath_iff_matchesUpTo hall]
        exact ⟨first, back, rfl, hfront, fun name hmem => hline name (List.mem_append_right _ hmem)⟩

/-- Segments in front match the names of a path with a slash between them. -/
theorem exists_languages {texts : List (List Char)} {read : List Segment}
    (h : List.Forall₂ Reads texts read) :
    ∃ languages, pathLanguages false read = .ok languages ∧
      ∀ name names, IsName name → (∀ name ∈ names, IsName name) →
        ((Language.sequence languages).Matches (name ++ slashed names) ↔
          segmentsMatch texts (name :: names) = true) := by
  obtain ⟨front, segments, ending, hreads, hfits, rfl, hending⟩ := exists_ending h
  obtain ⟨languages, hlanguages, hmatches⟩ := exists_languages_before hreads hfits
  refine ⟨languages, hlanguages, ?_⟩
  intro name names hname hnames
  rw [hmatches name names hname.isFilled fun n hn => (hnames n hn).isFilled]
  apply matchesPath_iff_of_line hfits hending (by simp)
  exact List.forall_mem_cons.2 ⟨hname.no_newline, fun n hn => (hnames n hn).no_newline⟩

/-- Whether a spelling of a glob is the text of a relative path whose segments are not empty and end
in no lone backslash. -/
def wellFormed (spelling : List Char) : Bool :=
  spelling.head? != some '/' &&
    (splitSlashes spelling).all fun segment => !segment.isEmpty && escapesPaired segment

theorem mem_of_mem_splitSlashes {spelling segment : List Char}
    (h : segment ∈ splitSlashes spelling) : '/' ∉ segment ∧ ∀ c ∈ segment, c ∈ spelling := by
  induction spelling generalizing segment with
  | nil =>
    simp only [splitSlashes, List.splitOnP_nil, List.mem_singleton] at h
    simp [h]
  | cons d spelling ih =>
    simp only [splitSlashes, List.splitOnP_cons_eq_if_modifyHead] at h ih
    split at h
    · rcases List.mem_cons.1 h with rfl | h
      · simp
      · obtain ⟨hslash, hmem⟩ := ih h
        exact ⟨hslash, fun c hc => List.mem_cons_of_mem _ (hmem c hc)⟩
    · rename_i hd
      obtain ⟨first, rest, hsplit⟩ := List.exists_cons_of_ne_nil
        (List.splitOnP_ne_nil (· == '/') spelling)
      rw [hsplit] at h ih
      rcases List.mem_cons.1 h with rfl | h
      · obtain ⟨hslash, hmem⟩ := ih List.mem_cons_self
        refine ⟨?_, List.forall_mem_cons.2
          ⟨List.mem_cons_self, fun c hc => List.mem_cons_of_mem _ (hmem c hc)⟩⟩
        simp only [List.mem_cons, not_or]
        exact ⟨fun heq => hd (by simp [← heq]), hslash⟩
      · obtain ⟨hslash, hmem⟩ := ih (List.mem_cons_of_mem _ h)
        exact ⟨hslash, fun c hc => List.mem_cons_of_mem _ (hmem c hc)⟩

/-- A segment that is not empty and ends in no lone backslash is read as what it matches. -/
theorem exists_read {text : List Char} (hclass : '[' ∉ text) (hslash : '/' ∉ text)
    (hne : text ≠ []) (hpaired : escapesPaired text = true) :
    ∃ segment, Segment.read text = .ok segment ∧ Reads text segment := by
  by_cases htext : text = ['*', '*']
  · exact ⟨.anyDepth, by simp [Segment.read, htext], htext ▸ .anyDepth⟩
  · obtain ⟨read, languages, hread, hlanguages, hmatch⟩ := exists_pieces hclass hslash hpaired
    refine ⟨.within read, ?_, .within htext ?_ hmatch⟩
    · rw [Segment.read, if_neg htext, if_neg (by simp [hne]), hread]
      rfl
    · rw [segmentLanguage, hlanguages]
      rfl

theorem exists_read_error {text : List Char} (hclass : '[' ∉ text)
    (h : text = [] ∨ escapesPaired text = false) : ∃ fault, Segment.read text = .error fault := by
  rcases h with rfl | h
  · exact ⟨.emptySegment, rfl⟩
  · have htext : text ≠ ['*', '*'] := by
      rintro rfl
      cases h
    have hne : text ≠ [] := by
      rintro rfl
      cases h
    refine ⟨.danglingEscape, ?_⟩
    rw [Segment.read, if_neg htext, if_neg (by simp [hne]),
      pieces_of_escapesPaired_eq_false hclass h]
    rfl

/-- A spelling without classes that is well formed is read as segments that match what they are. -/
theorem exists_segments {spelling : List Char} (hclass : '[' ∉ spelling)
    (h : wellFormed spelling = true) :
    ∃ read, segments spelling = .ok read ∧ List.Forall₂ Reads (splitSlashes spelling) read := by
  simp only [wellFormed, Bool.and_eq_true, bne_iff_ne, List.all_eq_true, Bool.not_eq_true',
    List.isEmpty_eq_false_iff] at h
  obtain ⟨hrelative, hsegments⟩ := h
  obtain ⟨read, hread, hreads⟩ := exists_mapM_ok (f := Segment.read) fun text hmem =>
    have hchars := mem_of_mem_splitSlashes hmem
    exists_read (fun hc => hclass (hchars.2 _ hc)) hchars.1 (hsegments text hmem).1
      (hsegments text hmem).2
  exact ⟨read, by rw [segments, if_neg hrelative, hread], hreads⟩

/-- A spelling without classes that is well formed has an expression, which matches the paths that
the segments of the spelling match. -/
theorem exists_pathLanguage {spelling : List Char} (hclass : '[' ∉ spelling)
    (h : wellFormed spelling = true) :
    ∃ read, segments spelling = .ok read ∧ ∃ language, pathLanguage read = .ok language ∧
      ∀ name names, IsName name → (∀ name ∈ names, IsName name) →
        (language.Matches (name ++ slashed names) ↔
          segmentsMatch (splitSlashes spelling) (name :: names) = true) := by
  obtain ⟨read, hread, hreads⟩ := exists_segments hclass h
  obtain ⟨languages, hlanguages, hmatches⟩ := exists_languages hreads
  refine ⟨read, hread, .sequence languages, ?_, hmatches⟩
  rw [pathLanguage, hlanguages]
  rfl

theorem exists_segments_error {spelling : List Char} (hclass : '[' ∉ spelling)
    (h : wellFormed spelling = false) : ∃ fault, segments spelling = .error fault := by
  by_cases hrelative : spelling.head? = some '/'
  · exact ⟨.absolute, by rw [segments, if_pos hrelative]⟩
  · simp only [wellFormed, Bool.and_eq_false_iff, bne_eq_false_iff_eq, hrelative, false_or,
      List.all_eq_false, Bool.and_eq_true, not_and_or, Bool.not_eq_true, Bool.not_eq_eq_eq_not,
      Bool.not_true, Bool.not_eq_false, List.isEmpty_iff] at h
    obtain ⟨text, hmem, htext⟩ := h
    have hchars := mem_of_mem_splitSlashes hmem
    rw [segments, if_neg hrelative]
    exact exists_mapM_error hmem (exists_read_error (fun hc => hclass (hchars.2 _ hc)) htext)

end RouteTable.Glob
