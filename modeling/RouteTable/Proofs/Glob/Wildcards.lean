import RouteTable.Glob.Pattern
import RouteTable.Proofs.Glob.Matching
import RouteTable.Proofs.Traversal
import Mathlib.Data.List.Infix

/-!
What a segment of a glob matches, said on the text of the segment: `*` any text, `?` any character,
a backslash and a character that character, every other character itself. For a segment without
character classes, reading its pieces and translating them gives exactly this, within one segment of
a path.
-/

namespace RouteTable.Glob

/-- Whether a segment of a glob, given as it is written, matches a name. -/
def wildcardsMatch : List Char → List Char → Bool
  | [], name => name.isEmpty
  | '*' :: pattern, name => name.tails.any (wildcardsMatch pattern)
  | '?' :: pattern, name =>
    match name with
    | [] => false
    | _ :: rest => wildcardsMatch pattern rest
  | '\\' :: c :: pattern, name =>
    match name with
    | [] => false
    | d :: rest => d == c && wildcardsMatch pattern rest
  | c :: pattern, name =>
    match name with
    | [] => false
    | d :: rest => d == c && wildcardsMatch pattern rest

/-- Whether no backslash at the end of a text is left without a character after it. -/
def escapesPaired : List Char → Bool
  | [] => true
  | ['\\'] => false
  | '\\' :: _ :: s => escapesPaired s
  | _ :: s => escapesPaired s

theorem escapesPaired_cons {c : Char} {s : List Char} (hlone : c = '\\' → s = [] → False)
    (hpair : ∀ d rest, c = '\\' → s = d :: rest → False) :
    escapesPaired (c :: s) = escapesPaired s := by
  rw [escapesPaired]
  · exact hlone
  · exact hpair

/-- A character that is no wildcard and escapes nothing stands for itself. -/
theorem wildcardsMatch_literal {c : Char} {pattern name : List Char} (hstar : c ≠ '*')
    (hone : c ≠ '?') (hescape : ∀ d rest, c = '\\' → pattern = d :: rest → False) :
    wildcardsMatch (c :: pattern) name =
      (match name with
      | [] => false
      | d :: rest => d == c && wildcardsMatch pattern rest) := by
  rw [wildcardsMatch.eq_def]
  split
  · rename_i h
    cases h
  · rename_i h
    exact absurd (List.cons.inj h).1 hstar
  · rename_i h
    exact absurd (List.cons.inj h).1 hone
  · rename_i h
    exact (hescape _ _ (List.cons.inj h).1 (List.cons.inj h).2).elim
  · rename_i h
    obtain ⟨rfl, rfl⟩ := List.cons.inj h
    rfl

/-- One star after another adds nothing. -/
theorem wildcardsMatch_star_star (pattern name : List Char) :
    wildcardsMatch ('*' :: '*' :: pattern) name = wildcardsMatch ('*' :: pattern) name := by
  rw [Bool.eq_iff_iff]
  simp only [wildcardsMatch, List.any_eq_true, List.mem_tails]
  constructor
  · rintro ⟨middle, hmiddle, last, hlast, h⟩
    exact ⟨last, hlast.trans hmiddle, h⟩
  · rintro ⟨last, hlast, h⟩
    exact ⟨last, hlast, last, List.suffix_refl _, h⟩

theorem wildcardsMatch_star_dropWhile (pattern name : List Char) :
    wildcardsMatch ('*' :: pattern.dropWhile (· == '*')) name =
      wildcardsMatch ('*' :: pattern) name := by
  induction pattern with
  | nil => rfl
  | cons c pattern ih =>
    by_cases hc : c = '*'
    · rw [hc, wildcardsMatch_star_star, ← ih]
      simp
    · simp [hc]

/-- A star's texts are the texts of one segment. -/
theorem matches_star_allBut_iff {c : Char} {s : List Char} :
    (Language.star (.one (.allBut c))).Matches s ↔ c ∉ s := by
  induction s with
  | nil => simp [Language.Matches.stop]
  | cons d s ih =>
    constructor
    · intro h
      obtain ⟨u, v, rfl, hone, hstar⟩ := Language.exists_cons_of_matches_star h
      obtain ⟨e, he, hcontains⟩ := Language.matches_one_iff.1 hone
      obtain ⟨rfl, rfl⟩ := List.cons.inj he
      have hd : d ≠ c := by simpa using hcontains
      simp only [List.mem_cons, not_or]
      exact ⟨hd.symm, ih.1 hstar⟩
    · intro h
      simp only [List.mem_cons, not_or] at h
      exact .more (s := [d]) (.one (by simpa using Ne.symm h.1)) (ih.2 h.2)

theorem escapesPaired_dropWhile_star (s : List Char) :
    escapesPaired (s.dropWhile (· == '*')) = escapesPaired s := by
  induction s with
  | nil => rfl
  | cons c s ih =>
    by_cases hc : c = '*'
    · rw [hc]
      simpa [escapesPaired] using ih
    · simp [hc]

/-- A segment that ends in a lone backslash has no pieces. -/
theorem pieces_of_escapesPaired_eq_false {segment : List Char} (hclass : '[' ∉ segment)
    (h : escapesPaired segment = false) : pieces segment = .error .danglingEscape := by
  fun_induction pieces segment with
  | case1 => cases h
  | case2 s ih =>
    rw [ih (fun hmem => hclass (List.mem_cons_of_mem _ ((List.dropWhile_sublist _).mem hmem)))
      ((escapesPaired_dropWhile_star s).trans h)]
    rfl
  | case3 s ih =>
    rw [ih (fun hmem => hclass (List.mem_cons_of_mem _ hmem)) h]
    rfl
  | case4 => exact absurd List.mem_cons_self hclass
  | case5 => exact absurd List.mem_cons_self hclass
  | case6 => rfl
  | case7 c s ih =>
    rw [ih (fun hmem => hclass (List.mem_cons_of_mem _ (List.mem_cons_of_mem _ hmem))) h]
    rfl
  | case8 c s _ _ _ hlone hpair ih =>
    have hs : escapesPaired s = false := by rwa [escapesPaired_cons hlone hpair] at h
    rw [ih (fun hmem => hclass (List.mem_cons_of_mem _ hmem)) hs]
    rfl

theorem matches_one_cons_iff {set : CharSet} {languages : List Language} {s : List Char} :
    (Language.sequence (.one set :: languages)).Matches s ↔
      ∃ c rest, s = c :: rest ∧ set.contains c = true ∧
        (Language.sequence languages).Matches rest := by
  rw [Language.matches_sequence_cons_iff]
  constructor
  · rintro ⟨u, v, rfl, hone, hrest⟩
    obtain ⟨c, rfl, hc⟩ := Language.matches_one_iff.1 hone
    exact ⟨c, v, rfl, hc, hrest⟩
  · rintro ⟨c, rest, rfl, hc, hrest⟩
    exact ⟨[c], rest, rfl, .one hc, hrest⟩

section Pieces

variable {pattern name : List Char} {languages : List Language}
variable (hrest : ∀ rest, (Language.sequence languages).Matches rest ↔
  '/' ∉ rest ∧ wildcardsMatch pattern rest = true)

include hrest

/-- A literal character of a segment, with what the rest of the segment matches. -/
theorem matches_literal_cons_iff {c : Char} (hc : c ≠ '/') :
    (Language.sequence (.one (.single c) :: languages)).Matches name ↔
      '/' ∉ name ∧ (match name with
        | [] => false
        | d :: rest => d == c && wildcardsMatch pattern rest) = true := by
  rw [matches_one_cons_iff]
  cases name with
  | nil => simp
  | cons d rest =>
    simp only [List.cons.injEq, CharSet.contains_single, beq_iff_eq, hrest, List.mem_cons, not_or,
      Bool.and_eq_true]
    constructor
    · rintro ⟨e, t, ⟨rfl, rfl⟩, rfl, hslash, hmatch⟩
      exact ⟨⟨hc.symm, hslash⟩, rfl, hmatch⟩
    · rintro ⟨⟨_, hslash⟩, rfl, hmatch⟩
      exact ⟨d, rest, ⟨rfl, rfl⟩, rfl, hslash, hmatch⟩

/-- A run of stars, with what the rest of the segment matches. -/
theorem matches_many_cons_iff :
    (Language.sequence (.star (.one (.allBut '/')) :: languages)).Matches name ↔
      '/' ∉ name ∧ wildcardsMatch ('*' :: pattern) name = true := by
  rw [Language.matches_sequence_cons_iff]
  simp only [matches_star_allBut_iff, hrest, wildcardsMatch, List.any_eq_true, List.mem_tails]
  constructor
  · rintro ⟨u, v, rfl, hu, hv, hmatch⟩
    exact ⟨by simp [hu, hv], v, List.suffix_append u v, hmatch⟩
  · rintro ⟨hname, v, ⟨u, rfl⟩, hmatch⟩
    simp only [List.mem_append, not_or] at hname
    exact ⟨u, v, rfl, hname.1, hname.2, hmatch⟩

/-- A question mark, with what the rest of the segment matches. -/
theorem matches_anyOne_cons_iff :
    (Language.sequence (.one (.allBut '/') :: languages)).Matches name ↔
      '/' ∉ name ∧ wildcardsMatch ('?' :: pattern) name = true := by
  rw [matches_one_cons_iff]
  cases name with
  | nil => simp [wildcardsMatch]
  | cons c rest =>
    simp only [List.cons.injEq, CharSet.contains_allBut, bne_iff_ne, hrest, List.mem_cons,
      not_or, wildcardsMatch]
    constructor
    · rintro ⟨d, t, ⟨rfl, rfl⟩, hd, ht, hmatch⟩
      exact ⟨⟨Ne.symm hd, ht⟩, hmatch⟩
    · rintro ⟨⟨hd, ht⟩, hmatch⟩
      exact ⟨c, rest, ⟨rfl, rfl⟩, Ne.symm hd, ht, hmatch⟩

end Pieces

/-- Any other segment without classes has pieces, and they match what the segment, as it is written,
matches within one segment of a path. -/
theorem exists_pieces {segment : List Char} (hclass : '[' ∉ segment) (hslash : '/' ∉ segment)
    (hpaired : escapesPaired segment = true) :
    ∃ read languages, pieces segment = .ok read ∧ read.mapM Piece.language = .ok languages ∧
      ∀ name, (Language.sequence languages).Matches name ↔
        '/' ∉ name ∧ wildcardsMatch segment name = true := by
  fun_induction pieces segment with
  | case1 =>
    refine ⟨[], [], rfl, rfl, fun name => ?_⟩
    simp only [Language.sequence, Language.matches_empty_iff, wildcardsMatch, List.isEmpty_iff]
    constructor
    · rintro rfl
      simp
    · exact And.right
  | case2 s ih =>
    have hsub := (List.dropWhile_sublist (· == '*') (l := s))
    obtain ⟨read, languages, hread, hlanguages, hmatch⟩ :=
      ih (fun hmem => hclass (List.mem_cons_of_mem _ (hsub.mem hmem)))
        (fun hmem => hslash (List.mem_cons_of_mem _ (hsub.mem hmem)))
        ((escapesPaired_dropWhile_star s).trans hpaired)
    refine ⟨.many :: read, .star (.one (.allBut '/')) :: languages, by rw [hread]; rfl,
      mapM_cons_ok rfl hlanguages, fun name => ?_⟩
    rw [← wildcardsMatch_star_dropWhile]
    exact matches_many_cons_iff hmatch
  | case3 s ih =>
    obtain ⟨read, languages, hread, hlanguages, hmatch⟩ :=
      ih (fun hmem => hclass (List.mem_cons_of_mem _ hmem))
        (fun hmem => hslash (List.mem_cons_of_mem _ hmem)) hpaired
    exact ⟨.one :: read, .one (.allBut '/') :: languages, by rw [hread]; rfl,
      mapM_cons_ok rfl hlanguages, fun name => matches_anyOne_cons_iff hmatch⟩
  | case4 => exact absurd List.mem_cons_self hclass
  | case5 => exact absurd List.mem_cons_self hclass
  | case6 => cases hpaired
  | case7 c s ih =>
    obtain ⟨read, languages, hread, hlanguages, hmatch⟩ :=
      ih (fun hmem => hclass (List.mem_cons_of_mem _ (List.mem_cons_of_mem _ hmem)))
        (fun hmem => hslash (List.mem_cons_of_mem _ (List.mem_cons_of_mem _ hmem))) hpaired
    have hc : c ≠ '/' := by
      rintro rfl
      exact hslash (List.mem_cons_of_mem _ List.mem_cons_self)
    exact ⟨.literal c :: read, .one (.single c) :: languages, by rw [hread]; rfl,
      mapM_cons_ok rfl hlanguages, fun name => matches_literal_cons_iff hmatch hc⟩
  | case8 c s hstar hone _ hlone hpair ih =>
    have hs : escapesPaired s = true := by rwa [escapesPaired_cons hlone hpair] at hpaired
    obtain ⟨read, languages, hread, hlanguages, hmatch⟩ :=
      ih (fun hmem => hclass (List.mem_cons_of_mem _ hmem))
        (fun hmem => hslash (List.mem_cons_of_mem _ hmem)) hs
    have hc : c ≠ '/' := by
      rintro rfl
      exact hslash List.mem_cons_self
    refine ⟨.literal c :: read, .one (.single c) :: languages, by rw [hread]; rfl,
      mapM_cons_ok rfl hlanguages, fun name => ?_⟩
    rw [matches_literal_cons_iff hmatch hc, wildcardsMatch_literal hstar hone hpair]

end RouteTable.Glob
