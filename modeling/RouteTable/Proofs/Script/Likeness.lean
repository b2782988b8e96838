import RouteTable.Proofs.Script.Angles
import RouteTable.Proofs.Script.Mirror

/-!
Texts that start alike. Two cursors correspond if their texts start alike and then go on with two
texts that nothing read can tell apart: none at all, or texts with a space in front. Readings at
corresponding cursors are in lockstep.
-/

namespace RouteTable.Script

open Cursor

/-- Whether the texts at two cursors start alike and go on with two texts. -/
def Corresponds (t t' : List Char) (cursor cursor' : Cursor) : Prop :=
  ∃ u, cursor.rest = u ++ t ∧ cursor'.rest = u ++ t'

theorem interchangeable_nil : Interchangeable [] [] :=
  Or.inl ⟨rfl, rfl⟩

/-- Cursors with the same text correspond. -/
theorem corresponds_of_rest {cursor cursor' : Cursor} (h : cursor.rest = cursor'.rest) :
    Corresponds [] [] cursor cursor' :=
  ⟨cursor.rest, by simp, by simp [h]⟩

section Readings

variable {t t' : List Char} {cursor cursor' after : Cursor}

/-- Corresponding cursors stand at the same place of two texts that end together. -/
def Interchangeable.lockstep (hends : Interchangeable t t') : Lockstep where
  Related := Corresponds t t'
  bound := t.length
  closing := none
  cons := by
    rintro p c s ⟨p', rest'⟩ ⟨u, hu, hu'⟩
    dsimp only at hu hu'
    rcases u with _ | ⟨d, u⟩
    · rcases hends with ⟨rfl, rfl⟩ | ⟨hhead, hhead'⟩
      · cases hu
      · obtain ⟨r, rfl⟩ := List.head?_eq_some_iff.1 hhead
        obtain ⟨r', rfl⟩ := List.head?_eq_some_iff.1 hhead'
        cases hu
        cases hu'
        refine ⟨p', r', rfl, ?_⟩
        rintro (hspace | hwithin)
        · exact absurd rfl hspace
        · exact absurd hwithin (Nat.not_succ_le_self _)
    · cases hu
      cases hu'
      exact ⟨p', u ++ t', rfl, fun _ => ⟨u, rfl, rfl⟩⟩
  nil := by
    rintro p cursor' ⟨u, hu, hu'⟩
    obtain ⟨rfl, rfl⟩ := List.append_eq_nil_iff.1 hu.symm
    rcases hends with ⟨-, rfl⟩ | ⟨hhead, -⟩
    · exact hu'
    · cases hhead
  escape := fun _ => rfl
  opens := by
    rintro p s cursor' ⟨u, hu, hu'⟩ hwhole
    dsimp only at hu
    rcases hwhole with hbound | ⟨body, further, rfl, hwithin⟩
    · obtain rfl := List.length_eq_zero_iff.1 hbound
      rcases hends with ⟨-, rfl⟩ | ⟨hhead, -⟩
      · rw [hu', hu]
      · cases hhead
    · rcases u with _ | ⟨c, u⟩
      · have hlength := congrArg List.length hu
        simp only [List.length_cons, List.length_append, List.nil_append] at hlength
        omega
      · rw [List.cons_append] at hu
        obtain ⟨rfl, hs⟩ := List.cons.inj hu
        have hbrace : '\x7d' ∈ u := by
          have hlength := congrArg List.length hs
          simp only [List.length_cons, List.length_append] at hlength
          have hprefix : body ++ ['\x7d'] <+: u := by
            refine List.prefix_of_prefix_length_le ?_ (List.prefix_append u t) ?_
            · rw [← hs]
              exact ⟨further, by simp⟩
            · simp only [List.length_append, List.length_singleton]
              omega
          exact hprefix.subset (by simp)
        rw [hu', hs]
        exact opensElement_append hends (behindName_ne_nil (by decide) (by decide +kernel) hbrace)

theorem corresponds_skipSpacing (hends : Interchangeable t t')
    (h : Corresponds t t' cursor cursor') {lineEnded : Bool} {result : Bool × Cursor}
    (hread : skipSpacing lineEnded cursor = .ok result)
    (hwithin : t.length ≤ result.2.remaining) :
    ∃ after', skipSpacing lineEnded cursor' = .ok (result.1, after') ∧
      Corresponds t t' result.2 after' := by
  obtain ⟨⟨ended, after'⟩, hread', halike, -⟩ :=
    Lockstep.related_skipSpacing (L := hends.lockstep) h hread hwithin
  obtain ⟨rfl, hafter⟩ := halike (.inr rfl)
  exact ⟨after', hread', hafter⟩

theorem corresponds_spacing (hends : Interchangeable t t') (h : Corresponds t t' cursor cursor')
    {freshLine : Bool} (hread : Gives (spacing cursor) freshLine after)
    (hwithin : t.length ≤ after.remaining) :
    ∃ after', Gives (spacing cursor') freshLine after' ∧ Corresponds t t' after after' := by
  obtain ⟨ended, after', hread', halike, -⟩ :=
    Lockstep.spacing_of_related (L := hends.lockstep) h hread hwithin
  obtain ⟨rfl, hafter⟩ := halike (.inr rfl)
  exact ⟨after', hread', hafter⟩

/-- Scripts with the same text behind the spacing at their start are read alike. -/
theorem gives_tokensFrom_of_spacing {embedded freshLine : Bool} {before before' tokens : List Token}
    {opened opened' : List OpenBracket} {start start' : Cursor}
    (hbefore : before'.map shape = before.map shape)
    (hopened : opened'.map OpenBracket.opener = opened.map OpenBracket.opener)
    (hspacing : Gives (spacing cursor) freshLine start)
    (hspacing' : Gives (spacing cursor') freshLine start') (hstart : Corresponds [] [] start start')
    (h : Gives (tokensFrom embedded before opened cursor) tokens after) :
    ∃ tokens' after', Gives (tokensFrom embedded before' opened' cursor') tokens' after' ∧
      tokens'.map shape = tokens.map shape := by
  have halike :
      interchangeable_nil.lockstep.SpacingAlike (freshLine, start) (freshLine, start') := by
    refine ⟨fun _ => ⟨rfl, hstart⟩, fun hrest => ?_⟩
    obtain ⟨p, rest⟩ := start
    obtain rfl : rest = [] := hrest
    exact interchangeable_nil.lockstep.nil hstart
  obtain ⟨tokens', after', hread', hshapes, -⟩ := Reader.mirrors_of_spacing
    (fun called _ => Reader.mirrors interchangeable_nil.lockstep called) (.inr rfl) hbefore hopened
    hspacing hspacing' halike h (Nat.zero_le _)
  have hscript : (embedded || interchangeable_nil.lockstep.closing.isSome) = embedded :=
    Bool.or_false embedded
  rw [hscript] at hread'
  exact ⟨tokens', after', hread', hshapes⟩

end Readings

end RouteTable.Script
