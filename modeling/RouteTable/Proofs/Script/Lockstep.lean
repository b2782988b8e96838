import Mathlib.Data.List.Find
import RouteTable.Proofs.Script.Classes
import RouteTable.Proofs.Script.Leaving
import RouteTable.Proofs.Script.Passage

/-!
Two readings in lockstep. What a reader makes of a text depends on what it passes and on the next
character, and not on the position in the source, so that two readings of texts that start alike
stay together until one of the texts ends. A `Lockstep` says which cursors stand at the same place
in both and what there is behind the end of the first text: nothing, or the brace that closes the
script there. A reader that leaves off within what is alike does the same at both cursors.
-/

namespace RouteTable.Script

open Cursor

/-- A relation between places of two texts that readers keep up. -/
structure Lockstep where
  /-- Whether two cursors stand at the same place of the two texts. -/
  Related : Cursor → Cursor → Prop
  /-- How much of the first text is not known to be alike. -/
  bound : Nat
  /-- What the second text has behind the closing brace of a script that ends the first text. If
  there is no such brace, the texts end together. -/
  closing : Option (List Char)
  /-- Both texts go on with the same character, and behind it they are at the same place, unless it
  is the space at which what is alike may end. -/
  cons : ∀ {p : Position} {c : Char} {s : List Char} {cursor' : Cursor},
    Related ⟨p, c :: s⟩ cursor' → ∃ p' s', cursor' = ⟨p', c :: s'⟩ ∧
      (c ≠ ' ' ∨ bound ≤ s.length → Related (next ⟨p, c :: s⟩) (next ⟨p', c :: s'⟩))
  /-- Where the first text ends, the second one ends or has the closing brace in its next line. -/
  nil : ∀ {p : Position} {cursor' : Cursor}, Related ⟨p, []⟩ cursor' →
    cursor'.rest = closing.elim [] fun behind => '\n' :: '\x7d' :: behind
  /-- Escapes, which may reach for characters behind the end, are alike if the texts end together.
  -/
  escape : ∀ {p : Position} {s : List Char} {cursor' : Cursor},
    Related ⟨p, '\\' :: s⟩ cursor' → closing = none
  /-- A `<` decides on an element alike if all is alike, or up to a closing brace behind it. -/
  opens : ∀ {p : Position} {s : List Char} {cursor' : Cursor}, Related ⟨p, '<' :: s⟩ cursor' →
    (bound = 0 ∨ ∃ body further, s = body ++ '\x7d' :: further ∧ bound ≤ further.length) →
      opensElement cursor'.rest = opensElement ('<' :: s)

namespace Lockstep

variable {L : Lockstep} {cursor cursor' after : Cursor}

section Texts

/-- What the second text has where the first one ends and spacing is passed. -/
def ending (L : Lockstep) : List Char :=
  L.closing.elim [] ('\x7d' :: ·)

/-- Whether passing spacing comes to the same place of both texts, or to ends that they do not have
in common. -/
def SpacingAlike (L : Lockstep) (result result' : Bool × Cursor) : Prop :=
  (result.2.rest ≠ [] ∨ L.closing = none → result'.1 = result.1 ∧ L.Related result.2 result'.2) ∧
    (result.2.rest = [] → result'.2.rest = L.ending)

theorem related_next {c : Char} {s : List Char} (h : L.Related cursor cursor')
    (hs : cursor.rest = c :: s) (hwithin : L.bound ≤ cursor.next.remaining) :
    L.Related cursor.next cursor'.next := by
  obtain ⟨p, rest⟩ := cursor
  obtain rfl : rest = c :: s := hs
  obtain ⟨p', s', rfl, hnext⟩ := L.cons h
  exact hnext (.inr hwithin)

/-- Within what is alike, both texts go on with the next character. -/
theorem exists_next {p : Position} {c : Char} {s : List Char} (h : L.Related ⟨p, c :: s⟩ cursor')
    (hwithin : L.bound ≤ (Cursor.next ⟨p, c :: s⟩).remaining) :
    ∃ p' s', cursor' = ⟨p', c :: s'⟩ ∧
      L.Related (Cursor.next ⟨p, c :: s⟩) (Cursor.next ⟨p', c :: s'⟩) := by
  obtain ⟨p', s', rfl, hnext⟩ := L.cons h
  exact ⟨p', s', rfl, hnext (.inr hwithin)⟩

theorem related_next_of_startsWith {c : Char} (h : L.Related cursor cursor')
    (hmark : cursor.startsWith [c] = true) (hwithin : L.bound ≤ cursor.next.remaining) :
    L.Related cursor.next cursor'.next := by
  obtain ⟨s, hs⟩ := List.isPrefixOf_iff_prefix.1 hmark
  exact related_next h hs.symm hwithin

theorem exists_cons {c : Char} {s : List Char} (h : L.Related cursor cursor')
    (hs : cursor.rest = c :: s) : ∃ s', cursor'.rest = c :: s' := by
  obtain ⟨p, rest⟩ := cursor
  obtain rfl : rest = c :: s := hs
  obtain ⟨p', s', rfl, -⟩ := L.cons h
  exact ⟨s', rfl⟩

/-- Where the first text ends, the second one ends too or goes on with a line end. -/
theorem rest_of_nil {p : Position} (h : L.Related ⟨p, []⟩ cursor') :
    cursor'.rest = [] ∨ ∃ s, cursor'.rest = '\n' :: s := by
  have hrest := L.nil h
  rcases hclosing : L.closing with _ | behind
  · rw [hclosing] at hrest
    exact .inl hrest
  · rw [hclosing] at hrest
    exact .inr ⟨_, hrest⟩

theorem rest_of_nil_of_closing {p : Position} (h : L.Related ⟨p, []⟩ cursor')
    (hclosing : L.closing = none) : cursor'.rest = [] := by
  rw [L.nil h, hclosing]
  rfl

/-- The next characters are in the same classes, unless the class has the line end. -/
theorem any_head? (h : L.Related cursor cursor') (holds : Char → Bool)
    (hline : holds '\n' = false) :
    cursor'.rest.head?.any holds = cursor.rest.head?.any holds := by
  rcases cursor with ⟨p, _ | ⟨c, s⟩⟩
  · rcases rest_of_nil h with hrest | ⟨s, hrest⟩
    · rw [hrest]
    · simp [hrest, hline]
  · obtain ⟨p', s', rfl, -⟩ := L.cons h
    rfl

theorem head?_beq (h : L.Related cursor cursor') {c : Char} (hline : c ≠ '\n') :
    (cursor'.rest.head? == some c) = (cursor.rest.head? == some c) := by
  have hany := any_head? h (· == c) (by simpa using hline.symm)
  have hmark : ∀ head? : Option Char, (head? == some c) = head?.any (· == c) := by
    intro head?
    cases head? <;> rfl
  rw [hmark, hmark, hany]

theorem head?_eq (h : L.Related cursor cursor') (hclosing : L.closing = none) :
    cursor'.rest.head? = cursor.rest.head? := by
  rcases cursor with ⟨p, _ | ⟨c, s⟩⟩
  · rw [rest_of_nil_of_closing h hclosing]
  · obtain ⟨p', s', rfl, -⟩ := L.cons h
    rfl

/-- A text without line ends that has no space but at its end starts both or neither. -/
theorem startsWith_eq (h : L.Related cursor cursor') (text : List Char)
    (htext : ' ' ∉ text.dropLast ∧ '\n' ∉ text) :
    cursor'.startsWith text = cursor.startsWith text := by
  induction text generalizing cursor cursor' with
  | nil => rfl
  | cons d text ih =>
    rcases cursor with ⟨p, _ | ⟨c, s⟩⟩
    · rcases rest_of_nil h with hrest | ⟨s, hrest⟩
      · rw [startsWith, hrest]
        rfl
      · have hd : (d == '\n') = false := by
          rw [beq_eq_false_iff_ne]
          rintro rfl
          exact htext.2 List.mem_cons_self
        simp [startsWith, hrest, List.isPrefixOf, hd]
    · obtain ⟨p', s', rfl, hnext⟩ := L.cons h
      rcases text with _ | ⟨e, text⟩
      · simp [startsWith, List.isPrefixOf]
      · by_cases hd : d = c
        · subst hd
          have hspace : d ≠ ' ' := by
            rintro rfl
            exact htext.1 List.mem_cons_self
          have hinner := ih (hnext (.inl hspace))
            ⟨fun hmem => htext.1 (List.mem_cons_of_mem d hmem),
              fun hmem => htext.2 (List.mem_cons_of_mem d hmem)⟩
          simpa [startsWith, List.isPrefixOf] using hinner
        · simp [startsWith, List.isPrefixOf, beq_eq_false_iff_ne.2 hd]

/-- Passing characters of the first text keeps the cursors together, also past its end if the texts
end together. -/
theorem related_advance (h : L.Related cursor cursor') {n : Nat}
    (hwithin : L.bound ≤ (cursor.advance n).remaining)
    (hleft : n ≤ cursor.remaining ∨ L.closing = none) :
    L.Related (cursor.advance n) (cursor'.advance n) ∧
      cursor'.rest.take n = cursor.rest.take n := by
  induction n generalizing cursor cursor' with
  | zero => exact ⟨h, rfl⟩
  | succ n ih =>
    rcases cursor with ⟨p, _ | ⟨c, s⟩⟩
    · rcases hleft with hleft | hclosing
      · exact absurd hleft (Nat.not_succ_le_zero n)
      · have hrest := rest_of_nil_of_closing h hclosing
        obtain ⟨p', rest⟩ := cursor'
        obtain rfl : rest = [] := hrest
        exact ⟨(ih h hwithin (.inr hclosing)).1, rfl⟩
    · have hnext : L.bound ≤ (Cursor.next ⟨p, c :: s⟩).remaining := by
        refine Nat.le_trans hwithin ?_
        rw [advance, remaining_advance]
        exact Nat.sub_le _ _
      obtain ⟨p', s', rfl, hcons⟩ := L.cons h
      have hleft' : n ≤ (Cursor.next ⟨p, c :: s⟩).remaining ∨ L.closing = none :=
        hleft.imp_left Nat.le_of_succ_le_succ
      obtain ⟨hafter, htake⟩ := ih (hcons (.inr hnext)) hwithin hleft'
      exact ⟨hafter, congrArg (c :: ·) htake⟩

/-- Passing a class of characters keeps the cursors together, unless the class goes on past the end
of the first text. -/
theorem related_skipWhile (h : L.Related cursor cursor') {holds : Char → Bool}
    (hwithin : L.bound ≤ (cursor.skipWhile holds).remaining)
    (hends : holds '\n' = false ∨ (cursor.skipWhile holds).rest ≠ [] ∨ L.closing = none) :
    L.Related (cursor.skipWhile holds) (cursor'.skipWhile holds) ∧
      cursor'.takeWhile holds = cursor.takeWhile holds := by
  obtain ⟨p, s⟩ := cursor
  induction s generalizing p cursor' with
  | nil =>
    have hstays : (∃ s, cursor'.rest = '\n' :: s ∧ holds '\n' = false) ∨ cursor'.rest = [] := by
      rcases hends with hline | hleft | hclosing
      · rcases rest_of_nil h with hrest | ⟨s, hrest⟩
        · exact .inr hrest
        · exact .inl ⟨s, hrest, hline⟩
      · exact absurd rfl hleft
      · exact .inr (rest_of_nil_of_closing h hclosing)
    obtain ⟨p', rest⟩ := cursor'
    rcases hstays with ⟨s, hrest, hline⟩ | hrest
    · obtain rfl : rest = '\n' :: s := hrest
      simpa [skipWhile, takeWhile, skipFrom, hline] using h
    · obtain rfl : rest = [] := hrest
      exact ⟨h, rfl⟩
  | cons c s ih =>
    obtain ⟨p', s', rfl, hcons⟩ := L.cons h
    by_cases hc : holds c = true
    · have hskip (q : Position) (rest : List Char) :
          Cursor.skipWhile holds ⟨q, c :: rest⟩ = (Cursor.next ⟨q, c :: rest⟩).skipWhile holds := by
        simp only [skipWhile, skipFrom, hc, if_true, Cursor.next]
      have htake (q : Position) (rest : List Char) : Cursor.takeWhile holds ⟨q, c :: rest⟩ =
          c :: (Cursor.next ⟨q, c :: rest⟩).takeWhile holds := by
        simp only [takeWhile, List.takeWhile_cons_of_pos hc, rest_next, List.tail_cons]
      rw [hskip] at hwithin hends
      have hnext := hcons (.inr (Nat.le_trans hwithin (remaining_skipWhile_le _ _)))
      obtain ⟨hafter, hsame⟩ := ih _ hnext hwithin hends
      rw [hskip, hskip, htake, htake]
      exact ⟨hafter, congrArg (c :: ·) hsame⟩
    · simpa [skipWhile, takeWhile, skipFrom, hc] using h

end Texts

section Lexemes

theorem related_unicodeDigits (h : L.Related cursor cursor') (hclosing : L.closing = none)
    (hwithin : L.bound ≤ (unicodeDigits cursor).2.remaining) :
    (unicodeDigits cursor').1 = (unicodeDigits cursor).1 ∧
      L.Related (unicodeDigits cursor).2 (unicodeDigits cursor').2 := by
  have hadvance (middle middle' : Cursor) (hmiddle : L.Related middle middle')
      (hle : L.bound ≤ middle.next.remaining) : L.Related middle.next middle'.next :=
    (related_advance (n := 1) hmiddle hle (.inr hclosing)).1
  unfold unicodeDigits at hwithin ⊢
  rw [startsWith_eq h _ (by decide)]
  split
  · rename_i hbrace
    rw [if_pos hbrace] at hwithin
    dsimp only at hwithin ⊢
    have hskipped := hwithin
    rw [remaining_next] at hskipped
    have hdigits : L.bound ≤ (cursor.next.skipWhile (· != '}')).remaining := by omega
    have hinner : L.bound ≤ cursor.next.remaining :=
      Nat.le_trans hdigits (remaining_skipWhile_le _ _)
    obtain ⟨hskip, htake⟩ :=
      related_skipWhile (hadvance _ _ h hinner) hdigits (.inr (.inr hclosing))
    exact ⟨htake, hadvance _ _ hskip hwithin⟩
  · rename_i hbrace
    rw [if_neg hbrace] at hwithin
    exact (related_advance h hwithin (.inr hclosing)).symm

theorem related_unicodeEscape (h : L.Related cursor cursor') (hclosing : L.closing = none)
    {c : Char} (hread : unicodeEscape cursor = .ok (c, after))
    (hwithin : L.bound ≤ after.remaining) :
    ∃ after', unicodeEscape cursor' = .ok (c, after') ∧ L.Related after after' := by
  unfold unicodeEscape at hread
  split at hread
  · rename_i hmark
    dsimp only at hread
    split at hread
    · rename_i decoded hdigits
      cases hread
      have hopened : L.bound ≤ (cursor.advance 2).remaining :=
        Nat.le_trans hwithin (remaining_unicodeDigits_le _)
      have hbackslash : L.bound ≤ (cursor.advance 1).remaining := by
        rw [remaining_advance] at hopened ⊢
        omega
      have hnext : L.Related cursor.next cursor'.next :=
        (related_advance h hbackslash (.inr hclosing)).1
      have hmark' : cursor'.next.startsWith ['u'] = true := by
        rw [startsWith_eq hnext _ (by decide), hmark]
      obtain ⟨hsame, hafter⟩ :=
        related_unicodeDigits (related_advance h hopened (.inr hclosing)).1 hclosing hwithin
      refine ⟨_, ?_, hafter⟩
      rw [unicodeEscape, if_pos hmark']
      simp only [hsame, hdigits]
    · cases hread
  · cases hread

theorem related_hexadecimalEscape (h : L.Related cursor cursor') (hclosing : L.closing = none)
    {c : Char} (hread : hexadecimalEscape cursor = .ok (c, after))
    (hwithin : L.bound ≤ after.remaining) :
    ∃ after', hexadecimalEscape cursor' = .ok (c, after') ∧ L.Related after after' := by
  unfold hexadecimalEscape at hread
  dsimp only at hread
  split at hread
  · rename_i decoded hdigits
    cases hread
    obtain ⟨hafter, htake⟩ := related_advance h hwithin (.inr hclosing)
    refine ⟨_, ?_, hafter⟩
    simp only [hexadecimalEscape, htake, hdigits]
  · cases hread

theorem related_readName (h : L.Related cursor cursor') {name : List Char}
    (hread : readName cursor = .ok (name, after)) (hwithin : L.bound ≤ after.remaining) :
    ∃ after', readName cursor' = .ok (name, after') ∧ L.Related after after' := by
  fun_induction readName cursor generalizing cursor' name after with
  | case1 cursor hs =>
    cases hread
    obtain ⟨p, rest⟩ := cursor
    obtain rfl : rest = [] := hs
    have hrest := rest_of_nil h
    obtain ⟨p', rest'⟩ := cursor'
    refine ⟨⟨p', rest'⟩, ?_, h⟩
    rcases hrest with hrest | ⟨s, hrest⟩
    · obtain rfl : rest' = [] := hrest
      exact readName_nil p'
    · obtain rfl : rest' = '\n' :: s := hrest
      exact readName_end (by decide) (isNamePart_eq_false_of_isSpacing (by decide))
  | case2 cursor c s hs hc decoded behind hescape name last htail ih =>
    cases hread
    have hbehind := Nat.le_trans hwithin (remaining_readName_le htail)
    obtain ⟨p, rest⟩ := cursor
    obtain rfl : rest = c :: s := hs
    obtain rfl : c = '\\' := by simpa using hc
    obtain ⟨behind', hescape', hrelated⟩ :=
      related_unicodeEscape h (L.escape h) hescape hbehind
    obtain ⟨last', htail', hlast⟩ := ih hrelated htail hwithin
    obtain ⟨p', s', rfl, -⟩ := L.cons h
    refine ⟨last', ?_, hlast⟩
    rw [readName_escape hescape', htail']
    rfl
  | case3 => cases hread
  | case4 => cases hread
  | case5 cursor c s hs hc hpart name last htail ih =>
    cases hread
    have hnext := related_next h hs (Nat.le_trans hwithin (remaining_readName_le htail))
    obtain ⟨last', htail', hlast⟩ := ih hnext htail hwithin
    obtain ⟨p, rest⟩ := cursor
    obtain rfl : rest = c :: s := hs
    obtain ⟨p', s', rfl, -⟩ := L.cons h
    refine ⟨last', ?_, hlast⟩
    rw [readName_part hpart, htail']
    rfl
  | case6 => cases hread
  | case7 cursor c s hs hc hpart =>
    cases hread
    obtain ⟨p, rest⟩ := cursor
    obtain rfl : rest = c :: s := hs
    obtain ⟨p', s', rfl, -⟩ := L.cons h
    exact ⟨⟨p', c :: s'⟩, readName_end (by simpa using hc) (Bool.eq_false_iff.2 hpart), h⟩

/-- Behind a backslash, the next character is the same too. -/
theorem exists_of_escape {p : Position} {c : Char} {s : List Char}
    (h : L.Related ⟨p, '\\' :: c :: s⟩ cursor') :
    ∃ p' s', cursor' = ⟨p', '\\' :: c :: s'⟩ ∧ (c ≠ ' ' → s'.head? = s.head?) := by
  have hclosing := L.escape h
  obtain ⟨p', rest', rfl, hnext⟩ := L.cons h
  obtain ⟨q', s', hcursor', hbehind⟩ := L.cons (hnext (.inl (by decide)))
  cases hcursor'
  exact ⟨p', s', rfl, fun hc => head?_eq (hbehind (.inl hc)) hclosing⟩

theorem related_stringEscape {p : Position} {s : List Char} (h : L.Related ⟨p, '\\' :: s⟩ cursor')
    {opened : Position} (opened' : Position) {decoded : List Char}
    (hread : stringEscape opened ⟨p, '\\' :: s⟩ = .ok (decoded, after))
    (hwithin : L.bound ≤ after.remaining) :
    ∃ after', stringEscape opened' cursor' = .ok (decoded, after') ∧ L.Related after after' := by
  have hclosing := L.escape h
  rcases s with _ | ⟨c, s⟩
  · cases hread
  · have hadvance {n : Nat} (hle : L.bound ≤ (Cursor.advance n ⟨p, '\\' :: c :: s⟩).remaining) :
        L.Related (Cursor.advance n ⟨p, '\\' :: c :: s⟩) (cursor'.advance n) :=
      (related_advance h hle (.inr hclosing)).1
    obtain ⟨p', s', rfl, hlook⟩ := exists_of_escape h
    simp only [stringEscape, rest_next, List.tail_cons] at hread ⊢
    split at hread
    · rename_i hu
      rw [if_pos hu]
      split at hread
      · rename_i hescape
        cases hread
        obtain ⟨after', hescape', hafter⟩ := related_unicodeEscape h hclosing hescape hwithin
        exact ⟨after', by rw [hescape'], hafter⟩
      · cases hread
    · rename_i hu
      rw [if_neg hu]
      split at hread
      · rename_i hx
        rw [if_pos hx]
        split at hread
        · rename_i hescape
          cases hread
          have hopened := Nat.le_trans hwithin (remaining_hexadecimalEscape_le hescape)
          obtain ⟨after', hescape', hafter⟩ :=
            related_hexadecimalEscape (hadvance hopened) hclosing hescape hwithin
          exact ⟨after', by rw [hescape'], hafter⟩
        · cases hread
      · rename_i hx
        rw [if_neg hx]
        split at hread
        · rename_i hline
          cases hread
          have hc : c ≠ ' ' := by
            rintro rfl
            exact absurd hline (by decide)
          rw [if_pos hline, hlook hc]
          split at hwithin
          · rename_i hpair
            rw [if_pos hpair, if_pos hpair]
            exact ⟨_, rfl, hadvance (n := 3) hwithin⟩
          · rename_i hpair
            rw [if_neg hpair, if_neg hpair]
            exact ⟨_, rfl, hadvance hwithin⟩
        · rename_i hline
          cases hread
          rw [if_neg hline]
          exact ⟨_, rfl, hadvance hwithin⟩

theorem related_readStringLiteral (h : L.Related cursor cursor') {quote : Char}
    {opened : Position} (opened' : Position) {value : List Char}
    (hread : readStringLiteral quote opened cursor = .ok (value, after))
    (hwithin : L.bound ≤ after.remaining) :
    ∃ after', readStringLiteral quote opened' cursor' = .ok (value, after') ∧
      L.Related after after' := by
  fun_induction readStringLiteral quote opened cursor generalizing cursor' value after with
  | case1 => cases hread
  | case2 => cases hread
  | case3 cursor c s hs hline hquote =>
    cases hread
    have hnext := related_next h hs hwithin
    obtain ⟨p, rest⟩ := cursor
    obtain rfl : rest = c :: s := hs
    obtain ⟨p', s', rfl, -⟩ := L.cons h
    obtain rfl : c = quote := by simpa using hquote
    exact ⟨_, readStringLiteral_quote (Bool.eq_false_iff.2 hline), hnext⟩
  | case4 cursor c s hs hline hquote hbackslash decoded behind hescape value last htail ih =>
    cases hread
    have hbehind := Nat.le_trans hwithin (remaining_readStringLiteral_le htail)
    obtain ⟨p, rest⟩ := cursor
    obtain rfl : rest = c :: s := hs
    obtain rfl : c = '\\' := by simpa using hbackslash
    obtain ⟨behind', hescape', hrelated⟩ := related_stringEscape h opened' hescape hbehind
    obtain ⟨last', htail', hlast⟩ := ih hrelated htail hwithin
    obtain ⟨p', s', rfl, -⟩ := L.cons h
    refine ⟨last', ?_, hlast⟩
    have hopen : quote ≠ '\\' := by
      rintro rfl
      exact hquote (beq_self_eq_true _)
    rw [readStringLiteral_escape hopen hescape', htail']
    rfl
  | case5 => cases hread
  | case6 => cases hread
  | case7 cursor c s hs hline hquote hbackslash value last htail ih =>
    cases hread
    have hnext := related_next h hs (Nat.le_trans hwithin (remaining_readStringLiteral_le htail))
    obtain ⟨last', htail', hlast⟩ := ih hnext htail hwithin
    obtain ⟨p, rest⟩ := cursor
    obtain rfl : rest = c :: s := hs
    obtain ⟨p', s', rfl, -⟩ := L.cons h
    refine ⟨last', ?_, hlast⟩
    rw [readStringLiteral_plain (Bool.eq_false_iff.2 hline) (by simpa using hquote)
      (by simpa using hbackslash), htail']
    rfl
  | case8 => cases hread

theorem related_regexBody {opened p : Position} (opened' : Position) {inClass escaped : Bool}
    {s : List Char} (h : L.Related ⟨p, s⟩ cursor')
    (hread : regexBody opened inClass escaped p s = .ok after)
    (hwithin : L.bound ≤ after.remaining) :
    ∃ after', regexBody opened' inClass escaped cursor'.position cursor'.rest = .ok after' ∧
      L.Related after after' := by
  induction s generalizing inClass escaped p cursor' with
  | nil => cases hread
  | cons c s ih =>
    obtain ⟨p', s', rfl, hcons⟩ := L.cons h
    have hnext : L.bound ≤ s.length → L.Related ⟨p.step c s, s⟩ ⟨p'.step c s', s'⟩ :=
      fun hle => hcons (.inr hle)
    simp only [regexBody] at hread ⊢
    split at hread
    · cases hread
    · rename_i hline
      rw [if_neg hline]
      split at hread
      · rename_i hescaped
        rw [if_pos hescaped]
        exact ih (hnext (Nat.le_trans hwithin (remaining_regexBody_le hread))) hread
      · rename_i hescaped
        rw [if_neg hescaped]
        split at hread
        · rename_i hbackslash
          rw [if_pos hbackslash]
          exact ih (hnext (Nat.le_trans hwithin (remaining_regexBody_le hread))) hread
        · rename_i hbackslash
          rw [if_neg hbackslash]
          split at hread
          · rename_i hend
            cases hread
            rw [if_pos hend]
            exact ⟨_, rfl, hnext hwithin⟩
          · rename_i hend
            rw [if_neg hend]
            exact ih (hnext (Nat.le_trans hwithin (remaining_regexBody_le hread))) hread

theorem related_readRegularExpression {c : Char} {s : List Char} (h : L.Related cursor cursor')
    (hs : cursor.rest = c :: s) (hread : readRegularExpression cursor = .ok after)
    (hwithin : L.bound ≤ after.remaining) :
    ∃ after', readRegularExpression cursor' = .ok after' ∧ L.Related after after' := by
  unfold readRegularExpression at hread
  split at hread
  · rename_i body hbody
    cases hread
    have hbodyWithin := Nat.le_trans hwithin (remaining_skipWhile_le isNamePart body)
    have hnextWithin := Nat.le_trans hbodyWithin (remaining_regexBody_le hbody)
    obtain ⟨body', hbody', hrelated⟩ := related_regexBody cursor'.position
      (related_next h hs hnextWithin) hbody hbodyWithin
    have hline : isNamePart '\n' = false := isNamePart_eq_false_of_isSpacing (by decide)
    refine ⟨_, ?_, (related_skipWhile hrelated hwithin (.inl hline)).1⟩
    rw [readRegularExpression, hbody']
  · cases hread

theorem numberTail_eq {p : Position} {s : List Char} (h : L.Related ⟨p, s⟩ cursor')
    (hexadecimal : Bool) (previous : Char) :
    numberTail hexadecimal previous cursor'.rest = numberTail hexadecimal previous s := by
  induction s generalizing p cursor' previous with
  | nil =>
    have hline : isNumberPart '\n' = false := by decide
    rcases rest_of_nil h with hrest | ⟨s, hrest⟩
    · rw [hrest]
    · simp [hrest, numberTail, hline]
  | cons c s ih =>
    obtain ⟨p', s', rfl, hcons⟩ := L.cons h
    by_cases hc : c = ' '
    · subst hc
      have hspace : isNumberPart ' ' = false := by decide
      simp [numberTail, hspace]
    · have hrest := ih (hcons (.inl hc)) c
      rw [rest_next, List.tail_cons] at hrest
      simp only [numberTail, hrest]

theorem startsNumber_eq {p : Position} {c : Char} {s : List Char}
    (h : L.Related ⟨p, c :: s⟩ cursor') : startsNumber cursor'.rest = startsNumber (c :: s) := by
  obtain ⟨p', s', rfl, hcons⟩ := L.cons h
  by_cases hc : c = ' '
  · subst hc
    rfl
  · have hlook := any_head? (hcons (.inl hc)) Char.isDigit (by decide)
    rw [rest_next, rest_next, List.tail_cons, List.tail_cons] at hlook
    simp only [startsNumber, hlook]

/-- The spelling of a number ends in front of a space. -/
theorem numberText_eq {p : Position} {c : Char} {s : List Char}
    (h : L.Related ⟨p, c :: s⟩ cursor') (hnumber : startsNumber (c :: s) = true) :
    numberText cursor'.rest = numberText (c :: s) := by
  obtain ⟨p', s', rfl, hcons⟩ := L.cons h
  have hc : c ≠ ' ' := by
    rintro rfl
    have hspace : (' ').isDigit = false := by decide
    simp [startsNumber, hspace] at hnumber
  have hnext := hcons (.inl hc)
  have hlower := head?_beq hnext (c := 'x') (by decide)
  have hupper := head?_beq hnext (c := 'X') (by decide)
  rw [rest_next, rest_next, List.tail_cons, List.tail_cons] at hlower hupper
  have htail := numberTail_eq hnext (c == '0' && (s.head? == some 'x' || s.head? == some 'X')) c
  rw [rest_next, List.tail_cons] at htail
  simp only [numberText, hlower, hupper, htail]

/-- No punctuator has a space or a line end. -/
theorem punctuator?_eq {p : Position} {c : Char} {s : List Char}
    (h : L.Related ⟨p, c :: s⟩ cursor') : punctuator? cursor'.rest = punctuator? (c :: s) := by
  have hlong : ∀ text ∈ longPunctuators, ' ' ∉ text.dropLast ∧ '\n' ∉ text := by decide
  have hfind : longPunctuators.find? (·.isPrefixOf cursor'.rest) =
      longPunctuators.find? (·.isPrefixOf (c :: s)) := by
    apply List.find?_congr
    intro text hmem
    exact startsWith_eq h text (hlong text hmem)
  obtain ⟨p', s', rfl, -⟩ := L.cons h
  dsimp only at hfind
  simp only [punctuator?, hfind]

theorem related_blockComment {opened p : Position} (opened' : Position) {lineEnded : Bool}
    {s : List Char} {result : Bool × Cursor} (h : L.Related ⟨p, s⟩ cursor')
    (hread : blockComment opened lineEnded p s = .ok result)
    (hwithin : L.bound ≤ result.2.remaining) :
    ∃ after', blockComment opened' lineEnded cursor'.position cursor'.rest =
        .ok (result.1, after') ∧ L.Related result.2 after' := by
  induction s generalizing lineEnded p cursor' with
  | nil => cases hread
  | cons c s ih =>
    have hmark := startsWith_eq h ['*', '/'] (by decide)
    have hstart := h
    obtain ⟨p', s', rfl, hcons⟩ := L.cons h
    simp only [Cursor.startsWith] at hmark
    simp only [blockComment, hmark] at hread ⊢
    split at hread
    · rename_i hend
      cases hread
      rw [if_pos hend]
      have hleft := (List.isPrefixOf_iff_prefix.1 hend).length_le
      exact ⟨_, rfl, (related_advance hstart hwithin (.inl hleft)).1⟩
    · rename_i hend
      rw [if_neg hend]
      have hle := Nat.le_trans hwithin (remaining_blockComment_le hread)
      exact ih (hcons (.inr hle)) hread

/-- Where the first text ends, passing spacing comes to the end of the second text or to its closing
brace. -/
theorem skipSpacing_of_nil {p : Position} (h : L.Related ⟨p, []⟩ cursor') (lineEnded : Bool) :
    ∃ ended after', skipSpacing lineEnded cursor' = .ok (ended, after') ∧
      after'.rest = L.ending ∧ (L.closing = none → ended = lineEnded ∧ after' = cursor') := by
  have hrest := L.nil h
  obtain ⟨p', rest⟩ := cursor'
  rw [ending]
  rcases hclosing : L.closing with _ | behind
  · rw [hclosing] at hrest
    obtain rfl : rest = [] := hrest
    exact ⟨lineEnded, ⟨p', []⟩, skipSpacing_nil lineEnded p', rfl, fun _ => ⟨rfl, rfl⟩⟩
  · rw [hclosing] at hrest
    obtain rfl : rest = '\n' :: '\x7d' :: behind := hrest
    have hbrace : settled ('\x7d' :: behind) = true := by
      have hspacing : isSpacing '\x7d' = false := by decide
      simp [settled, List.isPrefixOf, hspacing]
    have hended : (lineEnded || isLineTerminator '\n') = true := by
      have hline : isLineTerminator '\n' = true := by decide
      rw [hline, Bool.or_true]
    refine ⟨true, Cursor.next ⟨p', '\n' :: '\x7d' :: behind⟩, ?_, rfl,
      fun hnone => absurd hnone (Option.some_ne_none behind)⟩
    rw [skipSpacing_space (by decide), hended]
    exact skipSpacing_of_settled hbrace true _

theorem related_skipSpacing (h : L.Related cursor cursor') {lineEnded : Bool}
    {result : Bool × Cursor} (hread : skipSpacing lineEnded cursor = .ok result)
    (hwithin : L.bound ≤ result.2.remaining) :
    ∃ result', skipSpacing lineEnded cursor' = .ok result' ∧ L.SpacingAlike result result' := by
  fun_induction skipSpacing lineEnded cursor generalizing cursor' with
  | case1 lineEnded cursor hs =>
    cases hread
    obtain ⟨p, rest⟩ := cursor
    obtain rfl : rest = [] := hs
    obtain ⟨ended, after', hread', hending, hsame⟩ := skipSpacing_of_nil h lineEnded
    refine ⟨(ended, after'), hread', ?_, fun _ => hending⟩
    rintro (hleft | hclosing)
    · exact absurd rfl hleft
    · obtain ⟨rfl, rfl⟩ := hsame hclosing
      exact ⟨rfl, h⟩
  | case2 lineEnded cursor c s hs hc ih =>
    have hnext := related_next h hs (Nat.le_trans hwithin (remaining_skipSpacing_le hread))
    obtain ⟨result', hread', halike⟩ := ih hnext hread
    obtain ⟨p, rest⟩ := cursor
    obtain rfl : rest = c :: s := hs
    obtain ⟨p', s', rfl, -⟩ := L.cons h
    exact ⟨result', (skipSpacing_space hc).trans hread', halike⟩
  | case3 lineEnded cursor c s hs hc hline ih =>
    have hskipped := Nat.le_trans hwithin (remaining_skipSpacing_le hread)
    have hskip := (related_skipWhile h hskipped (.inl (by decide))).1
    have hline' := startsWith_eq h ['/', '/'] (by decide)
    obtain ⟨result', hread', halike⟩ := ih hskip hread
    obtain ⟨p, rest⟩ := cursor
    obtain rfl : rest = c :: s := hs
    obtain ⟨p', s', rfl, -⟩ := L.cons h
    exact ⟨result', (skipSpacing_lineComment (hline'.trans hline)).trans hread', halike⟩
  | case4 lineEnded cursor c s hs hc hline hblock ended behind hcomment ih =>
    have hbehind := Nat.le_trans hwithin (remaining_skipSpacing_le hread)
    have hblock' := startsWith_eq h ['/', '*'] (by decide)
    have hopener := (List.isPrefixOf_iff_prefix.1 hblock).length_le
    obtain ⟨p, rest⟩ := cursor
    obtain rfl : rest = c :: s := hs
    have hbody : (Cursor.advance 2 ⟨p, c :: s⟩).rest = s.tail := by simp
    have hopened : L.bound ≤ (Cursor.advance 2 ⟨p, c :: s⟩).remaining := by
      rw [remaining, hbody]
      exact Nat.le_trans hbehind (remaining_blockComment_le hcomment)
    have hadvance := (related_advance h hopened (.inl hopener)).1
    obtain ⟨p', s', rfl, -⟩ := L.cons h
    rw [eq_of_rest hbody] at hadvance
    obtain ⟨behind', hcomment', hrelated⟩ := related_blockComment p' hadvance hcomment hbehind
    obtain ⟨result', hread', halike⟩ := ih hrelated hread
    have hbody' : (Cursor.advance 2 ⟨p', c :: s'⟩).rest = s'.tail := by simp
    rw [hbody'] at hcomment'
    have hskip := skipSpacing_blockComment (hblock'.trans hblock) hcomment'
    exact ⟨result', hskip.trans hread', halike⟩
  | case5 => cases hread
  | case6 lineEnded cursor c s hs hc hline hblock =>
    cases hread
    have hline' := startsWith_eq h ['/', '/'] (by decide)
    have hblock' := startsWith_eq h ['/', '*'] (by decide)
    obtain ⟨p, rest⟩ := cursor
    obtain rfl : rest = c :: s := hs
    obtain ⟨p', s', rfl, -⟩ := L.cons h
    refine ⟨(lineEnded, ⟨p', c :: s'⟩), ?_, fun _ => ⟨rfl, h⟩,
      fun hnil => absurd hnil (List.cons_ne_nil _ _)⟩
    exact skipSpacing_end (Bool.eq_false_iff.2 hc) (hline'.trans (Bool.eq_false_iff.2 hline))
      (hblock'.trans (Bool.eq_false_iff.2 hblock))

theorem spacing_of_related (h : L.Related cursor cursor') {freshLine : Bool}
    (hread : Gives (spacing cursor) freshLine after) (hwithin : L.bound ≤ after.remaining) :
    ∃ ended after', Gives (spacing cursor') ended after' ∧
      L.SpacingAlike (freshLine, after) (ended, after') := by
  obtain ⟨hle, hread⟩ := hread
  unfold spacing at hread
  split at hread
  · rename_i result hskip
    cases hread
    obtain ⟨⟨ended, after'⟩, hskip', halike⟩ := related_skipSpacing h hskip hwithin
    exact ⟨ended, after', Written.spacing_of_skipSpacing hskip', halike⟩
  · cases hread

/-- Spacing in front of more text is passed alike. -/
theorem related_spacing (h : L.Related cursor cursor') {freshLine : Bool}
    (hread : Gives (spacing cursor) freshLine after) (hwithin : L.bound ≤ after.remaining)
    (hleft : 0 < after.remaining) :
    ∃ after', Gives (spacing cursor') freshLine after' ∧ L.Related after after' := by
  obtain ⟨ended, after', hread', hafter, -⟩ := spacing_of_related h hread hwithin
  obtain ⟨rfl, hrelated⟩ := hafter (.inl (List.length_pos_iff.1 hleft))
  exact ⟨after', hread', hrelated⟩

theorem related_skipQuoted (h : L.Related cursor cursor') {quote : Char} {opened : Position}
    (opened' : Position) (hread : Gives (skipQuoted quote opened cursor) () after)
    (hwithin : L.bound ≤ after.remaining) :
    ∃ after', Gives (skipQuoted quote opened' cursor') () after' ∧ L.Related after after' := by
  obtain ⟨hle, hread⟩ := hread
  unfold skipQuoted at hread
  dsimp only at hread
  split at hread
  · cases hread
  · rename_i hclosed
    cases hread
    have hbody : L.bound ≤ (cursor.skipWhile (· != quote)).remaining := by
      rw [remaining_next] at hwithin
      omega
    have hleft := mt List.isEmpty_iff.2 hclosed
    obtain ⟨c, s, hs⟩ := List.exists_cons_of_ne_nil hleft
    have hskip := (related_skipWhile h hbody (.inr (.inl hleft))).1
    have hclosed' : ¬ (cursor'.skipWhile (· != quote)).rest.isEmpty = true := by
      obtain ⟨s', hs'⟩ := exists_cons hskip hs
      rw [hs']
      exact Bool.false_ne_true
    refine ⟨_, ⟨Nat.le_trans ?_ (remaining_skipWhile_le (· != quote) cursor'), ?_⟩,
      related_next hskip hs hwithin⟩
    · rw [remaining_next]
      exact Nat.sub_le _ _
    · simp only [skipQuoted, if_neg hclosed']

/-- The name in a tag is passed alike. -/
theorem related_tagName (h : L.Related cursor cursor')
    (hwithin : L.bound ≤ (cursor.skipWhile isTagNamePart).remaining) :
    L.Related (cursor.skipWhile isTagNamePart) (cursor'.skipWhile isTagNamePart) ∧
      cursor'.takeWhile isTagNamePart = cursor.takeWhile isTagNamePart := by
  have hline : isTagNamePart '\n' = false := isTagNamePart_eq_false_of_isSpacing (by decide)
  exact related_skipWhile h hwithin (.inl hline)

theorem related_closingTag (h : L.Related cursor cursor') {name : String}
    (hread : Gives (closingTag name cursor) () after) (hwithin : L.bound ≤ after.remaining) :
    ∃ after', Gives (closingTag name cursor') () after' ∧ L.Related after after' := by
  obtain ⟨freshLine, ended, start, last, hspacing, hname, hbehind, hend, rfl⟩ :=
    gives_closingTag_iff.1 hread
  have hlastLt := Reader.remaining_of_startsWith hend
  have hskipLt := Nat.lt_of_lt_of_le hlastLt hbehind.1
  have hstartLt := Nat.lt_of_lt_of_le hskipLt (remaining_skipWhile_le isTagNamePart start)
  obtain ⟨start', hspacing', hstarts⟩ := related_spacing h hspacing
    (Nat.le_trans hwithin (Nat.le_of_lt hstartLt)) (Nat.zero_lt_of_lt hstartLt)
  obtain ⟨hskip, htake⟩ := related_tagName hstarts (Nat.le_trans hwithin (Nat.le_of_lt hskipLt))
  obtain ⟨last', hbehind', hlasts⟩ := related_spacing hskip hbehind
    (Nat.le_trans hwithin (Nat.le_of_lt hlastLt)) (Nat.zero_lt_of_lt hlastLt)
  have hend' := (startsWith_eq hlasts ['>'] (by decide)).trans hend
  rw [← htake] at hname
  exact ⟨last'.next, gives_closingTag_iff.2 ⟨_, _, _, _, hspacing', hname, hbehind', hend', rfl⟩,
    related_next_of_startsWith hlasts hend hwithin⟩

end Lexemes

end Lockstep

/-- What tells how a token is used: its kind, its value and whether it starts a line. -/
def shape (token : Token) : TokenClass × String × Bool :=
  (token.kind, token.value, token.freshLine)

theorem awaitsOperand_congr {before before' : List Token}
    (h : before'.map shape = before.map shape) : awaitsOperand before' = awaitsOperand before := by
  rcases before with _ | ⟨token, earlier⟩
  · rw [List.map_eq_nil_iff.1 h]
  · obtain ⟨token', earlier', rfl, htoken, hearlier⟩ := List.map_eq_cons_iff.1 h
    simp only [shape, Prod.mk.injEq] at htoken
    have haccess : earlier'.head?.any Token.isAccess = earlier.head?.any Token.isAccess := by
      rcases earlier with _ | ⟨access, earlier⟩
      · rw [List.map_eq_nil_iff.1 hearlier]
      · obtain ⟨access', _, rfl, haccess, -⟩ := List.map_eq_cons_iff.1 hearlier
        simp only [shape, Prod.mk.injEq] at haccess
        simp [Token.isAccess, Token.isPunctuator, haccess]
    simp only [awaitsOperand, htoken, haccess]

namespace Lockstep

variable {L : Lockstep} {before before' : List Token}

/-- Where one text goes on with a mark, so does the other. -/
theorem startsMark {p p' : Position} {c : Char} {s s' : List Char}
    (h : L.Related ⟨p, c :: s⟩ ⟨p', c :: s'⟩)
    (hnext : L.Related (next ⟨p, c :: s⟩) (next ⟨p', c :: s'⟩))
    (hbefore : before'.map shape = before.map shape) (hstarts : StartsMark before c s) :
    StartsMark before' c s' where
  name := hstarts.name
  privateName := by
    have hlook : s'.head?.any isNameStart = s.head?.any isNameStart :=
      any_head? hnext isNameStart (by decide +kernel)
    rw [hlook]
    exact hstarts.privateName
  number := (startsNumber_eq h).trans hstarts.number
  quote := hstarts.quote
  regex := by
    rw [awaitsOperand_congr hbefore]
    exact hstarts.regex

/-- A token that holds no other tokens is read alike. -/
theorem related_readsPlain {cursor cursor' after : Cursor} (h : L.Related cursor cursor')
    (hbefore : before'.map shape = before.map shape) {result : TokenClass × String}
    (hread : ReadsPlain before cursor result after) (hwithin : L.bound ≤ after.remaining) :
    ∃ after', ReadsPlain before' cursor' result after' ∧ L.Related after after' := by
  cases hread with
  | name hstart hread =>
    obtain ⟨after', hread', hafter⟩ := related_readName h hread hwithin
    obtain ⟨p', s', rfl, -⟩ := L.cons h
    exact ⟨after', .name hstart hread', hafter⟩
  | privateName hstart hread =>
    have hbehind := Nat.le_trans hwithin (remaining_readName_le hread)
    obtain ⟨p', s', rfl, hnext⟩ := exists_next h hbehind
    obtain ⟨after', hread', hafter⟩ := related_readName hnext hread hwithin
    have hlook := any_head? hnext isNameStart (by decide +kernel)
    exact ⟨after', .privateName (hlook.trans hstart) hread', hafter⟩
  | @number p c s hname hnumber =>
    have hlength := (numberText_isPrefix (c :: s)).length_le
    have htext := numberText_eq h hnumber
    have hnumber' := startsNumber_eq h
    have hafter := (related_advance h hwithin (.inl hlength)).1
    obtain ⟨p', s', rfl, -⟩ := L.cons h
    rw [← htext] at hafter ⊢
    exact ⟨_, .number hname (hnumber'.trans hnumber), hafter⟩
  | string hquote hread =>
    have hbehind := Nat.le_trans hwithin (remaining_readStringLiteral_le hread)
    obtain ⟨p', s', rfl, hnext⟩ := exists_next h hbehind
    obtain ⟨after', hread', hafter⟩ := related_readStringLiteral hnext p' hread hwithin
    exact ⟨after', .string hquote hread', hafter⟩
  | regex hawaits hread =>
    obtain ⟨after', hread', hafter⟩ := related_readRegularExpression h rfl hread hwithin
    obtain ⟨p', s', rfl, -⟩ := L.cons h
    exact ⟨after', .regex ((awaitsOperand_congr hbefore).trans hawaits) hread', hafter⟩
  | @punctuator p c s mark hstarts hmark =>
    have hlength := (punctuator?_isPrefix hmark).length_le
    have hmark' := (punctuator?_eq h).trans hmark
    have hafter := (related_advance h hwithin (.inl hlength)).1
    have hbehind : L.bound ≤ (Cursor.next ⟨p, c :: s⟩).remaining := by
      have hpos := (punctuator?_pos hmark).1
      rw [remaining_advance] at hwithin
      rw [remaining_next]
      omega
    obtain ⟨p', s', rfl, hnext⟩ := exists_next h hbehind
    exact ⟨_, .punctuator (startsMark h hnext hbefore hstarts) hmark', hafter⟩

end Lockstep

end RouteTable.Script
