import RouteTable.Glob.Language
import Mathlib.Logic.Basic

/-!
The texts of an expression, said without the matcher: a text of a sequence is a text of its first
part with one of its second after it, and a text of a star is any number of texts of its inner
expression. The matcher, which goes through a text character by character, accepts exactly these.
-/

namespace RouteTable.Glob.Language

/-- The texts that an expression stands for. -/
inductive Matches : Language → List Char → Prop where
  | empty : Matches empty []
  | one {set : CharSet} {c : Char} (hc : set.contains c = true) : Matches (one set) [c]
  | seq {a b : Language} {s t : List Char} (ha : Matches a s) (hb : Matches b t) :
      Matches (seq a b) (s ++ t)
  | first {a b : Language} {s : List Char} (ha : Matches a s) : Matches (alt a b) s
  | second {a b : Language} {s : List Char} (hb : Matches b s) : Matches (alt a b) s
  | stop {a : Language} : Matches (star a) []
  | more {a : Language} {s t : List Char} (ha : Matches a s) (hstar : Matches (star a) t) :
      Matches (star a) (s ++ t)

theorem matches_empty_iff {s : List Char} : Matches empty s ↔ s = [] := by
  constructor
  · intro h
    cases h
    rfl
  · rintro rfl
    exact .empty

theorem matches_one_iff {set : CharSet} {s : List Char} :
    Matches (one set) s ↔ ∃ c, s = [c] ∧ set.contains c = true := by
  constructor
  · intro h
    cases h with
    | one hc => exact ⟨_, rfl, hc⟩
  · rintro ⟨c, rfl, hc⟩
    exact .one hc

theorem matches_seq_iff {a b : Language} {s : List Char} :
    Matches (seq a b) s ↔ ∃ u v, s = u ++ v ∧ Matches a u ∧ Matches b v := by
  constructor
  · intro h
    cases h with
    | seq ha hb => exact ⟨_, _, rfl, ha, hb⟩
  · rintro ⟨u, v, rfl, ha, hb⟩
    exact .seq ha hb

theorem matches_alt_iff {a b : Language} {s : List Char} :
    Matches (alt a b) s ↔ Matches a s ∨ Matches b s := by
  constructor
  · intro h
    cases h with
    | first ha => exact Or.inl ha
    | second hb => exact Or.inr hb
  · rintro (ha | hb)
    · exact .first ha
    · exact .second hb

theorem matches_star_iff {a : Language} {s : List Char} :
    Matches (star a) s ↔ s = [] ∨ ∃ u v, s = u ++ v ∧ Matches a u ∧ Matches (star a) v := by
  constructor
  · intro h
    cases h with
    | stop => exact Or.inl rfl
    | more ha hstar => exact Or.inr ⟨_, _, rfl, ha, hstar⟩
  · rintro (rfl | ⟨u, v, rfl, ha, hstar⟩)
    · exact .stop
    · exact .more ha hstar

/-- A text of a star that is not empty starts with a text of the inner expression that is not. -/
theorem exists_cons_of_matches_star {a : Language} {c : Char} {s : List Char}
    (h : Matches (star a) (c :: s)) :
    ∃ u v, s = u ++ v ∧ Matches a (c :: u) ∧ Matches (star a) v := by
  generalize hstar : star a = language at h
  generalize htext : c :: s = text at h
  induction h with
  | stop => cases htext
  | @more a' u v ha hrest _ ih =>
    cases hstar
    cases u with
    | nil => exact ih rfl htext
    | cons d u =>
      obtain ⟨rfl, rfl⟩ := List.cons.inj htext
      exact ⟨u, v, rfl, ha, hrest⟩
  | _ => cases hstar

theorem nullable_iff_matches_nil (a : Language) : a.nullable = true ↔ Matches a [] := by
  induction a with
  | empty => simp [nullable, matches_empty_iff]
  | one set => simp [nullable, matches_one_iff]
  | seq a b iha ihb =>
    rw [nullable, Bool.and_eq_true, iha, ihb, matches_seq_iff]
    constructor
    · rintro ⟨ha, hb⟩
      exact ⟨[], [], rfl, ha, hb⟩
    · rintro ⟨u, v, huv, ha, hb⟩
      obtain ⟨rfl, rfl⟩ := List.append_eq_nil_iff.1 huv.symm
      exact ⟨ha, hb⟩
  | alt a b iha ihb => rw [nullable, Bool.or_eq_true, iha, ihb, matches_alt_iff]
  | star a _ => exact ⟨fun _ => .stop, fun _ => rfl⟩

theorem matches_followedBy_iff {a b : Language} {s : List Char} :
    Matches (a.followedBy b) s ↔ ∃ u v, s = u ++ v ∧ Matches a u ∧ Matches b v := by
  unfold followedBy
  split
  · simp only [matches_empty_iff]
    constructor
    · intro h
      exact ⟨[], s, rfl, rfl, h⟩
    · rintro ⟨u, v, rfl, rfl, h⟩
      exact h
  · exact matches_seq_iff

/-- What is left of an expression after a character matches what may follow that character. -/
theorem exists_residual_iff {c : Char} {a : Language} {s : List Char} :
    (∃ r ∈ residuals c a, Matches r s) ↔ Matches a (c :: s) := by
  induction a generalizing s with
  | empty => simp [residuals, matches_empty_iff]
  | one set =>
    by_cases hc : set.contains c = true
    · simp only [residuals, hc, if_true, List.mem_singleton, exists_eq_left, matches_empty_iff,
        matches_one_iff, List.cons.injEq]
      constructor
      · rintro rfl
        exact ⟨c, ⟨rfl, rfl⟩, hc⟩
      · rintro ⟨d, ⟨_, hs⟩, _⟩
        exact hs
    · simp only [residuals, hc, matches_one_iff]
      constructor
      · rintro ⟨r, hr, _⟩
        cases hr
      · rintro ⟨d, hd, hcontains⟩
        cases hd
        exact absurd hcontains hc
  | seq a b iha ihb =>
    have hleft : (∃ r ∈ (residuals c a).map (·.followedBy b), Matches r s) ↔
        ∃ u v, s = u ++ v ∧ Matches a (c :: u) ∧ Matches b v := by
      simp only [List.mem_map, exists_exists_and_eq_and, matches_followedBy_iff]
      constructor
      · rintro ⟨r, hr, u, v, huv, hru, hbv⟩
        exact ⟨u, v, huv, iha.1 ⟨r, hr, hru⟩, hbv⟩
      · rintro ⟨u, v, huv, hau, hbv⟩
        obtain ⟨r, hr, hru⟩ := iha.2 hau
        exact ⟨r, hr, u, v, huv, hru, hbv⟩
    have hright : (∃ r ∈ (if a.nullable then residuals c b else []), Matches r s) ↔
        Matches a [] ∧ Matches b (c :: s) := by
      rw [← nullable_iff_matches_nil, ← ihb]
      by_cases ha : a.nullable = true <;> simp [ha]
    rw [residuals, matches_seq_iff]
    simp only [List.mem_append, or_and_right, exists_or, hleft, hright]
    constructor
    · rintro (⟨u, v, rfl, hau, hbv⟩ | ⟨ha, hb⟩)
      · exact ⟨c :: u, v, rfl, hau, hbv⟩
      · exact ⟨[], c :: s, rfl, ha, hb⟩
    · rintro ⟨u, v, huv, ha, hb⟩
      cases u with
      | nil => exact Or.inr ⟨ha, by rwa [huv]⟩
      | cons d u =>
        obtain ⟨rfl, rfl⟩ := List.cons.inj huv
        exact Or.inl ⟨u, v, rfl, ha, hb⟩
  | alt a b iha ihb =>
    rw [residuals, matches_alt_iff, ← iha, ← ihb]
    simp only [List.mem_append, or_and_right, exists_or]
  | star a ih =>
    rw [residuals]
    simp only [List.mem_map, exists_exists_and_eq_and, matches_followedBy_iff]
    constructor
    · rintro ⟨r, hr, u, v, rfl, hru, hstar⟩
      exact .more (ih.1 ⟨r, hr, hru⟩) hstar
    · intro h
      obtain ⟨u, v, huv, hau, hstar⟩ := exists_cons_of_matches_star h
      obtain ⟨r, hr, hru⟩ := ih.2 hau
      exact ⟨r, hr, u, v, huv, hru, hstar⟩

theorem any_nullable_foldl_step_iff (languages : List Language) (text : List Char) :
    (text.foldl step languages).any nullable = true ↔
      ∃ language ∈ languages, Matches language text := by
  induction text generalizing languages with
  | nil => simp [nullable_iff_matches_nil]
  | cons c s ih =>
    rw [List.foldl_cons, ih]
    simp only [step, List.mem_eraseDups, List.mem_flatMap, ← exists_residual_iff (c := c)]
    constructor
    · rintro ⟨r, ⟨language, hmem, hr⟩, hmatch⟩
      exact ⟨language, hmem, r, hr, hmatch⟩
    · rintro ⟨language, hmem, r, hr, hmatch⟩
      exact ⟨r, ⟨language, hmem, hr⟩, hmatch⟩

/-- The matcher accepts exactly the texts of an expression. -/
theorem accepts_iff_matches (language : Language) (text : List Char) :
    language.accepts text = true ↔ language.Matches text := by
  rw [accepts, any_nullable_foldl_step_iff]
  simp

theorem matches_sequence_cons_iff {a : Language} {rest : List Language} {s : List Char} :
    Matches (sequence (a :: rest)) s ↔
      ∃ u v, s = u ++ v ∧ Matches a u ∧ Matches (sequence rest) v := by
  cases rest with
  | nil => simp [sequence, matches_empty_iff]
  | cons b rest => exact matches_seq_iff

theorem matches_anyOf_iff {a : Language} {rest : List Language} {s : List Char} :
    Matches (anyOf a rest) s ↔ ∃ language ∈ a :: rest, Matches language s := by
  induction rest generalizing a with
  | nil => simp [anyOf]
  | cons b rest ih => simp [anyOf, matches_alt_iff, ih]

end RouteTable.Glob.Language
