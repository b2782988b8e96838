import RouteTable.Proofs.Glob.Compile

/-!
Which globs stay within the segments of a path. Without groups and without `**`, each segment of a
glob takes a text, and a path that matches is these texts with slashes between them. Literal
characters, `?` and `*` take no slash, but a class takes every character of its set, and the sets of
negated classes and of ranges may have the slash: the text of one segment of the glob is then
several segments of the path.
-/

namespace RouteTable.Glob

def Piece.Takes : Piece → List Char → Prop
  | .literal c, text => text = [c]
  | .one, text => ∃ c, c ≠ '/' ∧ text = [c]
  | .many, text => '/' ∉ text
  | .charClass negated members, text =>
    ∃ set c, charSet negated members = .ok set ∧ set.contains c = true ∧ text = [c]

inductive PiecesTake : List Piece → List Char → Prop where
  | nil : PiecesTake [] []
  | cons {piece : Piece} {pieces : List Piece} {text rest : List Char} (hpiece : piece.Takes text)
      (hpieces : PiecesTake pieces rest) : PiecesTake (piece :: pieces) (text ++ rest)

/-- Pieces that take a text without empty segments. -/
def TakesNames (pieces : List Piece) : Prop :=
  ∃ text, PiecesTake pieces text ∧ NamesFilled text

/-- Pieces of one segment that take several segments of a path: one of them is a class that has the
slash, and there are names for what stands before it and for what stands behind it. -/
def Crosses (pieces : List Piece) : Prop :=
  ∃ before negated members after set, pieces = before ++ .charClass negated members :: after ∧
    charSet negated members = .ok set ∧ set.contains '/' = true ∧
      TakesNames before ∧ TakesNames after

section Slashes

variable {s t : List Char}

theorem namesFilled_append_slash_iff :
    NamesFilled (s ++ '/' :: t) ↔ NamesFilled s ∧ NamesFilled t := by
  simp only [NamesFilled, splitSlashes_append_slash, List.forall_mem_append]

theorem length_splitSlashes (s : List Char) : (splitSlashes s).length = s.count '/' + 1 := by
  induction s with
  | nil => rfl
  | cons c s ih =>
    have hcons := List.splitOnP_cons_eq_if_modifyHead (p := (· == '/')) c s
    by_cases hc : c = '/'
    · subst hc
      change (List.splitOnP _ _).length = _
      rw [hcons, if_pos (beq_self_eq_true '/'), List.length_cons, List.count_cons_self]
      exact congrArg (· + 1) ih
    · change (List.splitOnP _ _).length = _
      rw [hcons, if_neg (by simpa using hc), List.length_modifyHead,
        List.count_cons_of_ne (fun h => hc h)]
      exact ih

/-- A path that is put together from texts has one segment for each text, and one more for each
slash in them. -/
theorem length_splitSlashes_intercalate {texts : List (List Char)} (hne : texts ≠ []) :
    (splitSlashes (['/'].intercalate texts)).length = texts.length + texts.flatten.count '/' := by
  obtain ⟨text, texts, rfl⟩ := List.exists_cons_of_ne_nil hne
  clear hne
  rw [length_splitSlashes]
  induction texts generalizing text with
  | nil => simp [Nat.add_comm]
  | cons next texts ih =>
    have hnext := ih next
    rw [List.intercalate_cons_cons, List.append_assoc, List.count_append, List.singleton_append,
      List.count_cons_self]
    simp only [List.flatten_cons, List.count_append, List.length_cons] at hnext ⊢
    omega

theorem namesFilled_intercalate_iff {texts : List (List Char)} (hne : texts ≠ []) :
    NamesFilled (['/'].intercalate texts) ↔ ∀ text ∈ texts, NamesFilled text := by
  obtain ⟨text, texts, rfl⟩ := List.exists_cons_of_ne_nil hne
  clear hne
  induction texts generalizing text with
  | nil => simp
  | cons next texts ih =>
    rw [List.intercalate_cons_cons, List.append_assoc, List.singleton_append,
      namesFilled_append_slash_iff, ih next]
    exact List.forall_mem_cons.symm

end Slashes

section Pieces

variable {pieces : List Piece} {text : List Char}

theorem PiecesTake.append {others : List Piece} {more : List Char} (h : PiecesTake pieces text)
    (hothers : PiecesTake others more) : PiecesTake (pieces ++ others) (text ++ more) := by
  induction h with
  | nil => exact hothers
  | cons hpiece _ ih =>
    rw [List.append_assoc]
    exact .cons hpiece ih

/-- A slash is taken by a class. -/
theorem PiecesTake.exists_class (h : PiecesTake pieces text) (hliteral : .literal '/' ∉ pieces)
    (hslash : '/' ∈ text) :
    ∃ before negated members after set u v, pieces = before ++ .charClass negated members :: after ∧
      charSet negated members = .ok set ∧ set.contains '/' = true ∧ text = u ++ '/' :: v ∧
        PiecesTake before u ∧ PiecesTake after v := by
  induction h with
  | nil => cases hslash
  | @cons piece pieces taken rest hpiece hpieces ih =>
    simp only [List.mem_cons, not_or] at hliteral
    by_cases htaken : '/' ∈ taken
    · cases piece with
      | literal c =>
        obtain rfl : taken = [c] := hpiece
        rw [List.mem_singleton] at htaken
        exact absurd (congrArg Piece.literal htaken) hliteral.1
      | one =>
        obtain ⟨c, hc, rfl⟩ := hpiece
        exact absurd (List.mem_singleton.1 htaken).symm hc
      | many => exact absurd htaken hpiece
      | charClass negated members =>
        obtain ⟨set, c, hset, hc, rfl⟩ := hpiece
        obtain rfl := List.mem_singleton.1 htaken
        exact ⟨[], negated, members, pieces, set, [], rest, rfl, hset, hc, rfl, .nil, hpieces⟩
    · obtain ⟨before, negated, members, after, set, u, v, rfl, hset, hc, rfl, hbefore, hafter⟩ :=
        ih hliteral.2 ((List.mem_append.1 hslash).resolve_left htaken)
      exact ⟨piece :: before, negated, members, after, set, taken ++ u, v, rfl, hset, hc,
        (List.append_assoc ..).symm, .cons hpiece hbefore, hafter⟩

/-- Which segments take several segments of a path. -/
theorem crosses_iff (hliteral : .literal '/' ∉ pieces) :
    Crosses pieces ↔ ∃ text, PiecesTake pieces text ∧ NamesFilled text ∧ '/' ∈ text := by
  constructor
  · rintro ⟨before, negated, members, after, set, rfl, hset, hc, ⟨u, hu, hfilled⟩, v, hv, hnames⟩
    have hslash : Piece.Takes (.charClass negated members) ['/'] := ⟨set, '/', hset, hc, rfl⟩
    exact ⟨u ++ '/' :: v, hu.append (.cons hslash hv),
      namesFilled_append_slash_iff.2 ⟨hfilled, hnames⟩, by simp⟩
  · rintro ⟨text, htext, hfilled, hslash⟩
    obtain ⟨before, negated, members, after, set, u, v, rfl, hset, hc, rfl, hbefore, hafter⟩ :=
      htext.exists_class hliteral hslash
    obtain ⟨hu, hv⟩ := namesFilled_append_slash_iff.1 hfilled
    exact ⟨before, negated, members, after, set, rfl, hset, hc, ⟨u, hbefore, hu⟩, v, hafter, hv⟩

theorem Piece.matches_iff {piece : Piece} {language : Language}
    (h : piece.language = .ok language) : language.Matches text ↔ piece.Takes text := by
  cases piece with
  | literal c =>
    cases h
    simp [Language.matches_one_iff, Piece.Takes]
  | one =>
    cases h
    simp [Language.matches_one_iff, Piece.Takes, and_comm]
  | many =>
    cases h
    exact matches_star_allBut_iff
  | charClass negated members =>
    obtain ⟨set, hset, rfl⟩ := map_eq_ok_iff.1 h
    simp [Language.matches_one_iff, Piece.Takes, hset, and_comm]

theorem piecesTake_nil_iff : PiecesTake [] text ↔ text = [] := by
  constructor
  · intro h
    cases h
    rfl
  · rintro rfl
    exact .nil

theorem piecesTake_cons_iff {piece : Piece} :
    PiecesTake (piece :: pieces) text ↔
      ∃ u v, text = u ++ v ∧ piece.Takes u ∧ PiecesTake pieces v := by
  constructor
  · intro h
    cases h with
    | cons hpiece hpieces => exact ⟨_, _, rfl, hpiece, hpieces⟩
  · rintro ⟨u, v, rfl, hpiece, hpieces⟩
    exact .cons hpiece hpieces

/-- The expression of a segment matches what its pieces take. -/
theorem matches_segmentLanguage_iff {language : Language}
    (h : segmentLanguage pieces = .ok language) :
    language.Matches text ↔ PiecesTake pieces text := by
  obtain ⟨languages, hlanguages, rfl⟩ := map_eq_ok_iff.1 h
  clear h
  induction pieces generalizing languages text with
  | nil =>
    cases hlanguages
    rw [piecesTake_nil_iff]
    exact Language.matches_empty_iff
  | cons piece pieces ih =>
    obtain ⟨first, rest, hfirst, hrest, rfl⟩ := mapM_cons_eq_ok_iff.1 hlanguages
    rw [Language.matches_sequence_cons_iff, piecesTake_cons_iff]
    simp only [Piece.matches_iff hfirst, ih rest hrest]

end Pieces

section Read

theorem suffix_of_classMembers {first : Bool} {s : List Char} {result : List Member × List Char}
    (h : classMembers first s = .ok result) : result.2 <:+ s := by
  fun_induction classMembers first s generalizing result with
  | case1 => cases h
  | case2 => cases h
  | case3 first c s ih =>
    obtain ⟨inner, hinner, hresult⟩ := bind_eq_ok_iff.1 h
    cases hresult
    exact (ih hinner).trans (List.suffix_append ['\\', c] s)
  | case4 first c s =>
    cases h
    exact List.suffix_cons c s
  | case5 first c s _ _ hc ih =>
    obtain ⟨inner, hinner, hresult⟩ := bind_eq_ok_iff.1 h
    cases hresult
    exact (ih hinner).trans (List.suffix_cons c s)

theorem suffix_of_readClass {s : List Char} {result : (Bool × List Member) × List Char}
    (h : readClass s = .ok result) : result.2 <:+ s := by
  have hmembers (negated : Bool) (t : List Char)
      (ht : (classMembers true t).map (fun inner => ((negated, inner.1), inner.2)) = .ok result) :
      result.2 <:+ t := by
    obtain ⟨inner, hinner, rfl⟩ := map_eq_ok_iff.1 ht
    exact suffix_of_classMembers hinner
  unfold readClass at h
  split at h
  · exact (hmembers true _ h).trans (List.suffix_cons _ _)
  · exact (hmembers true _ h).trans (List.suffix_cons _ _)
  · exact hmembers false _ h

/-- The literal pieces of a segment are characters of it. -/
theorem mem_of_literal_mem_pieces {segment : List Char} {read : List Piece}
    (h : pieces segment = .ok read) {c : Char} (hmem : .literal c ∈ read) : c ∈ segment := by
  fun_induction pieces segment generalizing read with
  | case1 =>
    cases h
    cases hmem
  | case2 s ih =>
    obtain ⟨rest, hrest, hread⟩ := bind_eq_ok_iff.1 h
    cases hread
    have hlater := ih hrest ((List.mem_cons.1 hmem).resolve_left (by simp))
    exact List.mem_cons_of_mem _ ((List.dropWhile_sublist _).mem hlater)
  | case3 s ih =>
    obtain ⟨rest, hrest, hread⟩ := bind_eq_ok_iff.1 h
    cases hread
    exact List.mem_cons_of_mem _ (ih hrest ((List.mem_cons.1 hmem).resolve_left (by simp)))
  | case4 => cases h
  | case5 s negated members rest hclass ih =>
    obtain ⟨others, hothers, hread⟩ := bind_eq_ok_iff.1 h
    cases hread
    have hlater := ih hothers ((List.mem_cons.1 hmem).resolve_left (by simp))
    exact List.mem_cons_of_mem _ ((suffix_of_readClass hclass).mem hlater)
  | case6 => cases h
  | case7 d s ih =>
    obtain ⟨rest, hrest, hread⟩ := bind_eq_ok_iff.1 h
    cases hread
    rcases List.mem_cons.1 hmem with heq | hmem
    · cases heq
      exact List.mem_cons_of_mem _ List.mem_cons_self
    · exact List.mem_cons_of_mem _ (List.mem_cons_of_mem _ (ih hrest hmem))
  | case8 d s _ _ _ _ _ ih =>
    obtain ⟨rest, hrest, hread⟩ := bind_eq_ok_iff.1 h
    cases hread
    rcases List.mem_cons.1 hmem with heq | hmem
    · cases heq
      exact List.mem_cons_self
    · exact List.mem_cons_of_mem _ (ih hrest hmem)

/-- The segments of a glob without `**` have pieces, none of which is a literal slash. -/
theorem exists_pieces_of_segments {spelling : List Char} {read : List Segment}
    (h : segments spelling = .ok read) (hdepth : ['*', '*'] ∉ splitSlashes spelling) :
    ∃ pieceses : List (List Piece), read = pieceses.map .within ∧
      pieceses.length = (splitSlashes spelling).length ∧
        ∀ pieces ∈ pieceses, .literal '/' ∉ pieces := by
  rw [segments] at h
  split at h
  · cases h
  have hslash : ∀ text ∈ splitSlashes spelling, '/' ∉ text := fun text hmem =>
    (mem_of_mem_splitSlashes hmem).1
  generalize splitSlashes spelling = texts at h hdepth hslash
  induction texts generalizing read with
  | nil =>
    cases h
    exact ⟨[], rfl, rfl, by simp⟩
  | cons text texts ih =>
    obtain ⟨segment, rest, hsegment, hrest, rfl⟩ := mapM_cons_eq_ok_iff.1 h
    simp only [List.mem_cons, not_or] at hdepth
    rw [List.forall_mem_cons] at hslash
    obtain ⟨pieceses, rfl, hlength, hliteral⟩ := ih hrest hdepth.2 hslash.2
    rw [Segment.read, if_neg (Ne.symm hdepth.1)] at hsegment
    split at hsegment
    · cases hsegment
    obtain ⟨pieces, hpieces, rfl⟩ := map_eq_ok_iff.1 hsegment
    have hnoSlash : .literal '/' ∉ pieces := fun hmem =>
      hslash.1 (mem_of_literal_mem_pieces hpieces hmem)
    exact ⟨pieces :: pieceses, rfl, congrArg (· + 1) hlength,
      List.forall_mem_cons.2 ⟨hnoSlash, hliteral⟩⟩

end Read

section Paths

variable {pieceses : List (List Piece)} {languages : List Language} {path : List Char}

/-- Segments that go on behind others, with a slash before each of their texts. -/
theorem matches_pathLanguages_separated_iff
    (h : pathLanguages true (pieceses.map .within) = .ok languages) :
    (Language.sequence languages).Matches path ↔
      ∃ texts, List.Forall₂ PiecesTake pieceses texts ∧ path = slashed texts := by
  induction pieceses generalizing languages path with
  | nil =>
    cases h
    rw [Language.sequence, Language.matches_empty_iff]
    constructor
    · rintro rfl
      exact ⟨[], .nil, rfl⟩
    · rintro ⟨texts, htexts, rfl⟩
      cases htexts
      rfl
  | cons pieces pieceses ih =>
    rw [List.map_cons, pathLanguages] at h
    obtain ⟨language, hlanguage, h⟩ := bind_eq_ok_iff.1 h
    obtain ⟨later, hlater, h⟩ := bind_eq_ok_iff.1 h
    cases h
    simp only [if_true, Language.matches_sequence_cons_iff, matches_slash_iff,
      matches_segmentLanguage_iff hlanguage, ih hlater]
    constructor
    · rintro ⟨_, _, rfl, rfl, text, _, rfl, htext, texts, htexts, rfl⟩
      exact ⟨text :: texts, .cons htext htexts, rfl⟩
    · rintro ⟨_, htexts, rfl⟩
      cases htexts with
      | @cons _ text _ texts htext htexts =>
        exact ⟨['/'], text ++ slashed texts, rfl, rfl, text, slashed texts, rfl, htext, texts,
          htexts, rfl⟩

/-- Each segment of the glob takes a text, and the path has slashes between them. -/
theorem matches_pathLanguage_iff {language : Language} (hne : pieceses ≠ [])
    (h : pathLanguage (pieceses.map .within) = .ok language) :
    language.Matches path ↔
      ∃ texts, List.Forall₂ PiecesTake pieceses texts ∧ path = ['/'].intercalate texts := by
  obtain ⟨pieces, pieceses, rfl⟩ := List.exists_cons_of_ne_nil hne
  obtain ⟨languages, hlanguages, rfl⟩ := map_eq_ok_iff.1 h
  rw [List.map_cons, pathLanguages] at hlanguages
  obtain ⟨first, hfirst, hlanguages⟩ := bind_eq_ok_iff.1 hlanguages
  obtain ⟨later, hlater, hlanguages⟩ := bind_eq_ok_iff.1 hlanguages
  cases hlanguages
  simp only [Bool.false_eq_true, if_false, Language.matches_sequence_cons_iff,
    matches_segmentLanguage_iff hfirst, matches_pathLanguages_separated_iff hlater]
  constructor
  · rintro ⟨text, _, rfl, htext, texts, htexts, rfl⟩
    exact ⟨text :: texts, .cons htext htexts, (intercalate_slash_cons text texts).symm⟩
  · rintro ⟨_, htexts, rfl⟩
    cases htexts with
    | @cons _ text _ texts htext htexts =>
      exact ⟨text, slashed texts, intercalate_slash_cons text texts, htext, texts, htexts, rfl⟩

/-- Which globs match a path without empty segments that has more segments than they have. -/
theorem exists_longer_iff (hne : pieceses ≠ [])
    (hliteral : ∀ pieces ∈ pieceses, .literal '/' ∉ pieces) :
    (∃ texts, List.Forall₂ PiecesTake pieceses texts ∧ NamesFilled (['/'].intercalate texts) ∧
      ∃ text ∈ texts, '/' ∈ text) ↔
        (∀ pieces ∈ pieceses, TakesNames pieces) ∧ ∃ pieces ∈ pieceses, Crosses pieces := by
  have hnames : ∀ texts, List.Forall₂ PiecesTake pieceses texts ∧
      NamesFilled (['/'].intercalate texts) ↔
        List.Forall₂ (fun pieces text => PiecesTake pieces text ∧ NamesFilled text) pieceses
          texts := by
    intro texts
    rw [forall₂_and_right_iff]
    apply and_congr_right
    intro htexts
    apply namesFilled_intercalate_iff
    rintro rfl
    cases htexts
    exact hne rfl
  have hcrosses : (∃ pieces ∈ pieceses, Crosses pieces) ↔ ∃ pieces ∈ pieceses, ∃ text,
      (PiecesTake pieces text ∧ NamesFilled text) ∧ '/' ∈ text := by
    apply exists_congr
    intro pieces
    apply and_congr_right
    intro hmem
    simp only [crosses_iff (hliteral pieces hmem), and_assoc]
  simp only [← and_assoc, hnames, hcrosses]
  exact exists_forall₂_exists_mem_iff

end Paths

/-- What a glob without groups and without `**` matches, and when it stays within segments. Each of
its segments takes a text of the path, which has one segment more for each slash in these texts. All
paths without empty segments that match have as many segments as the glob exactly if no segment of
the glob crosses to the next segment of a path, or one of them takes no names at all. -/
theorem isMatch_length_iff_not_crosses {pattern : String} {glob : CompiledGlob}
    (hglob : CompiledGlob.compile pattern = .ok glob) (hgroup : '{' ∉ pattern.toList)
    (hdepth : ['*', '*'] ∉ splitSlashes (trimmed pattern.toList)) :
    ∃ pieceses : List (List Piece),
      segments (trimmed pattern.toList) = .ok (pieceses.map .within) ∧
      (∀ path : String, glob.isMatch path = true ↔ ∃ texts, List.Forall₂ PiecesTake pieceses texts ∧
        path.toList = ['/'].intercalate texts) ∧
      (∀ texts, List.Forall₂ PiecesTake pieceses texts →
        (splitSlashes (['/'].intercalate texts)).length =
          (splitSlashes (trimmed pattern.toList)).length + texts.flatten.count '/') ∧
      ((∀ path : String, NamesFilled path.toList → glob.isMatch path = true →
          (splitSlashes path.toList).length = (splitSlashes (trimmed pattern.toList)).length) ↔
        ¬ ((∀ pieces ∈ pieceses, TakesNames pieces) ∧ ∃ pieces ∈ pieceses, Crosses pieces)) := by
  obtain ⟨language, hlanguage, rfl⟩ := compile_source_eq_ok_iff.1 hglob
  obtain ⟨read, hread, hpath⟩ := (compile_eq_ok_iff_of_no_group hgroup).1 hlanguage
  obtain ⟨pieceses, rfl, hlength, hliteral⟩ := exists_pieces_of_segments hread hdepth
  have hne : pieceses ≠ [] := by
    rintro rfl
    exact List.splitOnP_ne_nil _ _ (List.length_eq_zero_iff.1 hlength.symm)
  have hmatches : ∀ path : String, CompiledGlob.isMatch ⟨pattern, language⟩ path = true ↔
      ∃ texts, List.Forall₂ PiecesTake pieceses texts ∧
        path.toList = ['/'].intercalate texts := by
    intro path
    rw [CompiledGlob.isMatch, Language.accepts_iff_matches]
    exact matches_pathLanguage_iff hne hpath
  have hcount : ∀ texts, List.Forall₂ PiecesTake pieceses texts →
      (splitSlashes (['/'].intercalate texts)).length =
        (splitSlashes (trimmed pattern.toList)).length + texts.flatten.count '/' := by
    intro texts htexts
    have htextsNe : texts ≠ [] := by
      rintro rfl
      cases htexts
      exact hne rfl
    rw [length_splitSlashes_intercalate htextsNe, ← htexts.length_eq, hlength]
  refine ⟨pieceses, hread, hmatches, hcount, ?_⟩
  rw [← exists_longer_iff hne hliteral]
  constructor
  · rintro hstays ⟨texts, htexts, hnames, text, hmem, hslash⟩
    have hstay := hstays (String.ofList (['/'].intercalate texts)) (by simpa using hnames)
      ((hmatches _).2 ⟨texts, htexts, by simp⟩)
    rw [String.toList_ofList, hcount texts htexts] at hstay
    have hnone : texts.flatten.count '/' = 0 := by omega
    exact List.count_eq_zero.1 hnone (List.mem_flatten.2 ⟨text, hmem, hslash⟩)
  · intro hshort path hnames hmatch
    obtain ⟨texts, htexts, hpath⟩ := (hmatches path).1 hmatch
    rw [hpath] at hnames ⊢
    rw [hcount texts htexts, Nat.add_eq_left, List.count_eq_zero]
    intro hslash
    obtain ⟨text, hmem, hslash⟩ := List.mem_flatten.1 hslash
    exact hshort ⟨texts, htexts, hnames, text, hmem, hslash⟩

/-- A negated class in the first place of a segment cannot take a slash, as no name is before it. -/
theorem isMatch_length_leadingClass :
    ∃ glob, CompiledGlob.compile "[!_]*.ts" = .ok glob ∧
      '{' ∉ "[!_]*.ts".toList ∧ ['*', '*'] ∉ splitSlashes (trimmed "[!_]*.ts".toList) ∧
      ∀ path : String, NamesFilled path.toList → glob.isMatch path = true →
        (splitSlashes path.toList).length = 1 := by
  have hcompile : CompiledGlob.compile "[!_]*.ts" = .ok ⟨"[!_]*.ts", .sequence
      [.one ⟨true, [('_', '_')], []⟩, .star (.one (.allBut '/')), .one (.single '.'),
        .one (.single 't'), .one (.single 's')]⟩ :=
    compile_source_eq_ok_iff.2 ⟨_, by decide +kernel, rfl⟩
  have hread : segments (trimmed "[!_]*.ts".toList) = .ok ([[.charClass true [.character '_'],
      .many, .literal '.', .literal 't', .literal 's']].map .within) := by
    decide +kernel
  obtain ⟨pieceses, hsegments, -, -, hstays⟩ :=
    isMatch_length_iff_not_crosses hcompile (by decide) (by decide)
  refine ⟨_, hcompile, by decide, by decide, hstays.2 ?_⟩
  have hinjective : Function.Injective Segment.within := fun _ _ => Segment.within.inj
  rw [List.map_injective_iff.2 hinjective (Except.ok.inj (hsegments.symm.trans hread))]
  rintro ⟨-, pieces, hmem, before, negated, members, after, set, hpieces, -, -, hbefore, -⟩
  rw [List.mem_singleton.1 hmem] at hpieces
  cases before with
  | nil =>
    obtain ⟨text, htext, hnames⟩ := hbefore
    rw [piecesTake_nil_iff.1 htext] at hnames
    exact hnames [] (by decide) rfl
  | cons piece before =>
    have hlater : .charClass negated members ∈
        [Piece.many, .literal '.', .literal 't', .literal 's'] := by
      rw [(List.cons.inj hpieces).2]
      simp
    simp at hlater

/-- A negated class takes the slash between two segments of a path. -/
theorem isMatch_negatedClass :
    ∃ glob, CompiledGlob.compile "a[!x]b" = .ok glob ∧ '{' ∉ "a[!x]b".toList ∧
      (splitSlashes (trimmed "a[!x]b".toList)) = ["a[!x]b".toList] ∧
      splitSlashes "a/b".toList = [['a'], ['b']] ∧ glob.isMatch "a/b" = true := by
  have hcompile : CompiledGlob.compile "a[!x]b" = .ok ⟨"a[!x]b", .sequence
      [.one (.single 'a'), .one ⟨true, [('x', 'x')], []⟩, .one (.single 'b')]⟩ :=
    compile_source_eq_ok_iff.2 ⟨_, by decide +kernel, rfl⟩
  exact ⟨_, hcompile, by decide, by decide, by decide, by decide⟩

end RouteTable.Glob
