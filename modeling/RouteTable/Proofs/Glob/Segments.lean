import RouteTable.Proofs.Glob.Wildcards

/-!
What the segments of a glob match, said on lists of segments: `**` stands for any number of the
segments of a path, every other segment for one. A path is its segments with slashes between them,
and is taken apart in one way only.
-/

namespace RouteTable.Glob

/-- Whether segments of a glob, given as they are written, match the segments of a path. -/
def segmentsMatch : List (List Char) → List (List Char) → Bool
  | [], names => names.isEmpty
  | segment :: rest, names =>
    if segment = ['*', '*'] then names.tails.any (segmentsMatch rest)
    else
      match names with
      | [] => false
      | name :: others => wildcardsMatch segment name && segmentsMatch rest others

/-- A segment of a path, without slashes and on one line. -/
structure IsName (name : List Char) : Prop where
  ne_nil : name ≠ []
  no_slash : '/' ∉ name
  no_newline : '\n' ∉ name

/-- A segment of a path, of one line or more. -/
structure IsFilled (name : List Char) : Prop where
  ne_nil : name ≠ []
  no_slash : '/' ∉ name

theorem IsName.isFilled {name : List Char} (h : IsName name) : IsFilled name :=
  ⟨h.ne_nil, h.no_slash⟩

/-- The segments of a path with a slash before each. -/
def slashed (names : List (List Char)) : List Char :=
  names.flatMap ('/' :: ·)

/-- A text that goes on behind a segment of a path: it is over, or it starts with a slash. -/
inductive Boundary : List Char → Prop where
  | nil : Boundary []
  | slash (text : List Char) : Boundary ('/' :: text)

@[simp] theorem slashed_nil : slashed [] = [] :=
  rfl

@[simp] theorem slashed_cons (name : List Char) (names : List (List Char)) :
    slashed (name :: names) = '/' :: (name ++ slashed names) :=
  rfl

@[simp] theorem slashed_append (names others : List (List Char)) :
    slashed (names ++ others) = slashed names ++ slashed others :=
  List.flatMap_append

theorem boundary_slashed (names : List (List Char)) : Boundary (slashed names) := by
  cases names with
  | nil => exact .nil
  | cons name names => exact .slash _

theorem newline_not_mem_slashed_iff {names : List (List Char)} :
    '\n' ∉ slashed names ↔ ∀ name ∈ names, '\n' ∉ name := by
  have hslash : '\n' ≠ '/' := by decide
  simp [slashed, hslash]

theorem splitSlashes_append_slash (s t : List Char) :
    splitSlashes (s ++ '/' :: t) = splitSlashes s ++ splitSlashes t :=
  List.splitOnP_append_cons s t (beq_self_eq_true '/')

theorem intercalate_slash_cons (name : List Char) (names : List (List Char)) :
    ['/'].intercalate (name :: names) = name ++ slashed names := by
  induction names generalizing name with
  | nil => simp
  | cons second names ih =>
    rw [List.intercalate_cons_cons, ih, slashed_cons, List.append_assoc, List.singleton_append]

/-- A text splits in one way into a part without slashes and what goes on behind it. -/
theorem eq_of_append_boundary {a b s t : List Char} (ha : '/' ∉ a) (hb : '/' ∉ b)
    (hs : Boundary s) (ht : Boundary t) (h : a ++ s = b ++ t) : a = b ∧ s = t := by
  induction a generalizing b with
  | nil =>
    cases b with
    | nil => exact ⟨rfl, h⟩
    | cons c b =>
      cases hs with
      | nil => cases h
      | slash s =>
        obtain ⟨rfl, -⟩ := List.cons.inj h
        exact absurd List.mem_cons_self hb
  | cons c a ih =>
    cases b with
    | nil =>
      cases ht with
      | nil => cases h
      | slash t =>
        obtain ⟨rfl, -⟩ := List.cons.inj h
        exact absurd List.mem_cons_self ha
    | cons d b =>
      obtain ⟨rfl, htail⟩ := List.cons.inj h
      simp only [List.mem_cons, not_or] at ha hb
      obtain ⟨rfl, rfl⟩ := ih ha.2 hb.2 htail
      exact ⟨rfl, rfl⟩

theorem matches_slash_iff {s : List Char} : slash.Matches s ↔ s = ['/'] := by
  simp only [slash, Language.matches_one_iff, CharSet.contains_single, beq_iff_eq]
  constructor
  · rintro ⟨c, rfl, rfl⟩
    rfl
  · rintro rfl
    exact ⟨'/', rfl, rfl⟩

theorem matches_segmentText_iff {s : List Char} : segmentText.Matches s ↔ s ≠ [] ∧ '/' ∉ s := by
  simp only [segmentText, Language.plus, Language.matches_seq_iff, Language.matches_one_iff,
    matches_star_allBut_iff, CharSet.contains_allBut, bne_iff_ne]
  constructor
  · rintro ⟨u, v, rfl, ⟨c, rfl, hc⟩, hv⟩
    exact ⟨by simp, by simp [Ne.symm hc, hv]⟩
  · rintro ⟨hne, hs⟩
    cases s with
    | nil => exact absurd rfl hne
    | cons c s =>
      simp only [List.mem_cons, not_or] at hs
      exact ⟨[c], s, rfl, ⟨c, rfl, Ne.symm hs.1⟩, hs.2⟩

theorem matches_lineText_iff {s : List Char} : lineText.Matches s ↔ '\n' ∉ s :=
  matches_star_allBut_iff

/-- A directory with the slash before it. -/
theorem matches_slash_segmentText_iff {s : List Char} :
    (Language.seq slash segmentText).Matches s ↔
      ∃ name, name ≠ [] ∧ '/' ∉ name ∧ s = '/' :: name := by
  simp only [Language.matches_seq_iff, matches_slash_iff, matches_segmentText_iff]
  constructor
  · rintro ⟨u, v, rfl, rfl, hne, hv⟩
    exact ⟨v, hne, hv, rfl⟩
  · rintro ⟨name, hne, hname, rfl⟩
    exact ⟨['/'], name, rfl, rfl, hne, hname⟩

/-- A directory with the slash after it. -/
theorem matches_segmentText_slash_iff {s : List Char} :
    (Language.seq segmentText slash).Matches s ↔
      ∃ name, name ≠ [] ∧ '/' ∉ name ∧ s = name ++ ['/'] := by
  simp only [Language.matches_seq_iff, matches_slash_iff, matches_segmentText_iff]
  constructor
  · rintro ⟨u, v, rfl, ⟨hne, hu⟩, rfl⟩
    exact ⟨u, hne, hu, rfl⟩
  · rintro ⟨name, hne, hname, rfl⟩
    exact ⟨name, ['/'], rfl, ⟨hne, hname⟩, rfl⟩

theorem boundary_append_of_matches {u v : List Char}
    (hu : (Language.star (.seq slash segmentText)).Matches u) (hv : Boundary v) :
    Boundary (u ++ v) := by
  cases u with
  | nil => exact hv
  | cons c u =>
    obtain ⟨s, t, rfl, hfirst, _⟩ := Language.exists_cons_of_matches_star hu
    obtain ⟨name, _, _, hname⟩ := matches_slash_segmentText_iff.1 hfirst
    obtain ⟨rfl, rfl⟩ := List.cons.inj hname
    exact .slash _

/-- Directories with a slash before each, at the start of a path, are directories of the path. -/
theorem exists_append_of_slashed {names : List (List Char)} {u v : List Char}
    (hnames : ∀ name ∈ names, IsFilled name) (hv : Boundary v) (h : u ++ v = slashed names)
    (hu : (Language.star (.seq slash segmentText)).Matches u) :
    ∃ first rest, names = first ++ rest ∧ v = slashed rest := by
  induction names generalizing u with
  | nil => exact ⟨[], [], rfl, (List.append_eq_nil_iff.1 h).2⟩
  | cons name names ih =>
    rcases Language.matches_star_iff.1 hu with rfl | ⟨s, t, rfl, hs, ht⟩
    · exact ⟨[], name :: names, rfl, h⟩
    · obtain ⟨other, _, hother, rfl⟩ := matches_slash_segmentText_iff.1 hs
      simp only [List.cons_append, slashed_cons, List.append_assoc] at h
      obtain ⟨rfl, htail⟩ := eq_of_append_boundary hother
        (hnames name List.mem_cons_self).no_slash (boundary_append_of_matches ht hv)
        (boundary_slashed names) (List.cons.inj h).2
      obtain ⟨first, rest, rfl, hrest⟩ :=
        ih (fun n hn => hnames n (List.mem_cons_of_mem _ hn)) htail ht
      exact ⟨other :: first, rest, rfl, hrest⟩

theorem matches_star_slashed {names : List (List Char)} (hnames : ∀ name ∈ names, IsFilled name) :
    (Language.star (.seq slash segmentText)).Matches (slashed names) := by
  induction names with
  | nil => exact .stop
  | cons name names ih =>
    have hname := hnames name List.mem_cons_self
    exact .more (s := '/' :: name)
      (matches_slash_segmentText_iff.2 ⟨name, hname.ne_nil, hname.no_slash, rfl⟩)
      (ih fun n hn => hnames n (List.mem_cons_of_mem _ hn))

/-- Directories with a slash after each, at the start of a path, are directories of the path, and
something is left of it. -/
theorem exists_append_of_intercalate {name : List Char} {names : List (List Char)}
    {u v : List Char} (hname : IsFilled name) (hnames : ∀ name ∈ names, IsFilled name)
    (h : u ++ v = name ++ slashed names)
    (hu : (Language.star (.seq segmentText slash)).Matches u) :
    ∃ first last rest, name :: names = first ++ last :: rest ∧ v = last ++ slashed rest := by
  induction names generalizing name u with
  | nil =>
    rcases Language.matches_star_iff.1 hu with rfl | ⟨s, t, rfl, hs, ht⟩
    · exact ⟨[], name, [], rfl, h⟩
    · obtain ⟨other, _, _, rfl⟩ := matches_segmentText_slash_iff.1 hs
      refine absurd ?_ hname.no_slash
      rw [slashed_nil, List.append_nil] at h
      rw [← h]
      simp
  | cons second names ih =>
    rcases Language.matches_star_iff.1 hu with rfl | ⟨s, t, rfl, hs, ht⟩
    · exact ⟨[], name, second :: names, rfl, h⟩
    · obtain ⟨other, _, hother, rfl⟩ := matches_segmentText_slash_iff.1 hs
      simp only [List.append_assoc, List.cons_append, List.nil_append, slashed_cons] at h
      obtain ⟨rfl, htail⟩ := eq_of_append_boundary hother hname.no_slash (.slash _) (.slash _) h
      obtain ⟨first, last, rest, hsplit, hrest⟩ :=
        ih (hnames second List.mem_cons_self) (fun n hn => hnames n (List.mem_cons_of_mem _ hn))
          (List.cons.inj htail).2 ht
      exact ⟨other :: first, last, rest, by rw [hsplit]; rfl, hrest⟩

theorem matches_star_flatMap {names : List (List Char)} (hnames : ∀ name ∈ names, IsFilled name) :
    (Language.star (.seq segmentText slash)).Matches (names.flatMap (· ++ ['/'])) := by
  induction names with
  | nil => exact .stop
  | cons name names ih =>
    have hname := hnames name List.mem_cons_self
    exact .more (matches_segmentText_slash_iff.2 ⟨name, hname.ne_nil, hname.no_slash, rfl⟩)
      (ih fun n hn => hnames n (List.mem_cons_of_mem _ hn))

theorem flatMap_append_eq (first : List (List Char)) (last : List Char)
    (rest : List (List Char)) {name : List Char} {names : List (List Char)}
    (h : name :: names = first ++ last :: rest) :
    first.flatMap (· ++ ['/']) ++ (last ++ slashed rest) = name ++ slashed names := by
  induction first generalizing name names with
  | nil =>
    obtain ⟨rfl, rfl⟩ := List.cons.inj h
    rfl
  | cons n first ih =>
    obtain ⟨rfl, rfl⟩ := List.cons.inj h
    cases first with
    | nil => simp
    | cons m first =>
      simp only [List.cons_append] at ih ⊢
      rw [List.flatMap_cons, List.append_assoc, ih rfl]
      simp

section Names

variable {text : List Char} {texts names : List (List Char)}

theorem segmentsMatch_nil_iff : segmentsMatch [] names = true ↔ names = [] :=
  List.isEmpty_iff

theorem segmentsMatch_cons_iff (htext : text ≠ ['*', '*']) :
    segmentsMatch (text :: texts) names = true ↔
      ∃ name rest, names = name :: rest ∧ wildcardsMatch text name = true ∧
        segmentsMatch texts rest = true := by
  simp only [segmentsMatch, if_neg htext]
  cases names with
  | nil => simp
  | cons name rest =>
    rw [Bool.and_eq_true]
    exact ⟨fun h => ⟨name, rest, rfl, h⟩, by rintro ⟨_, _, ⟨⟩, h⟩; exact h⟩

theorem segmentsMatch_anyDepth_iff :
    segmentsMatch (['*', '*'] :: texts) names = true ↔
      ∃ first rest, names = first ++ rest ∧ segmentsMatch texts rest = true := by
  simp only [segmentsMatch, if_true, List.any_eq_true, List.mem_tails]
  constructor
  · rintro ⟨rest, ⟨first, rfl⟩, h⟩
    exact ⟨first, rest, rfl, h⟩
  · rintro ⟨first, rest, rfl, h⟩
    exact ⟨rest, List.suffix_append first rest, h⟩

/-- Segments of a glob can do with no name at all if they are all `**`. -/
theorem segmentsMatch_no_names_iff :
    segmentsMatch texts [] = true ↔ ∀ text ∈ texts, text = ['*', '*'] := by
  induction texts with
  | nil => simp [segmentsMatch]
  | cons text texts ih =>
    rw [List.forall_mem_cons]
    by_cases htext : text = ['*', '*']
    · rw [htext, segmentsMatch_anyDepth_iff, and_iff_right rfl, ← ih]
      constructor
      · rintro ⟨first, rest, hnil, h⟩
        rwa [(List.append_eq_nil_iff.1 hnil.symm).2] at h
      · intro h
        exact ⟨[], [], rfl, h⟩
    · rw [segmentsMatch_cons_iff htext]
      refine iff_of_false ?_ fun h => htext h.1
      rintro ⟨_, _, hnil, _⟩
      cases hnil

/-- Any names do for segments of a glob, one or more, that are all `**`. -/
theorem segmentsMatch_of_forall (hne : texts ≠ []) (h : ∀ text ∈ texts, text = ['*', '*'])
    (names : List (List Char)) : segmentsMatch texts names = true := by
  obtain ⟨text, texts, rfl⟩ := List.exists_cons_of_ne_nil hne
  rw [List.forall_mem_cons] at h
  rw [h.1, segmentsMatch_anyDepth_iff]
  exact ⟨names, [], (List.append_nil names).symm, segmentsMatch_no_names_iff.2 h.2⟩

/-- With `**` behind other segments, these match a start of the names. -/
theorem segmentsMatch_append_anyDepth_iff :
    segmentsMatch (texts ++ [['*', '*']]) names = true ↔
      ∃ front back, names = front ++ back ∧ segmentsMatch texts front = true := by
  induction texts generalizing names with
  | nil =>
    refine iff_of_true (segmentsMatch_of_forall (by simp) (by simp) names) ?_
    exact ⟨[], names, rfl, rfl⟩
  | cons text texts ih =>
    by_cases htext : text = ['*', '*']
    · simp only [htext, List.cons_append, segmentsMatch_anyDepth_iff, ih]
      constructor
      · rintro ⟨first, _, rfl, front, back, rfl, h⟩
        exact ⟨first ++ front, back, (List.append_assoc ..).symm, first, front, rfl, h⟩
      · rintro ⟨_, back, rfl, first, front, rfl, h⟩
        exact ⟨first, front ++ back, List.append_assoc .., front, back, rfl, h⟩
    · simp only [List.cons_append, segmentsMatch_cons_iff htext, ih]
      constructor
      · rintro ⟨name, _, rfl, hname, front, back, rfl, h⟩
        exact ⟨name :: front, back, rfl, name, front, rfl, hname, h⟩
      · rintro ⟨_, back, rfl, name, front, rfl, hname, h⟩
        exact ⟨name, front ++ back, rfl, hname, front, back, rfl, h⟩

end Names

end RouteTable.Glob
