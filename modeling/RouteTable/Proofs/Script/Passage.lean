import RouteTable.Proofs.Script.Legible

/-!
What a reader passes. A cursor leads to another one by passing a text, character by character, and
every reader of a lexeme leaves a cursor that the one it was given leads to. The value of a token
and its text belong together: punctuators and numbers are their text, and so are names without
escapes, those of private members behind their `#`.
-/

namespace RouteTable.Script

namespace Cursor

/-- Whether passing a text leads from a cursor to another one. -/
structure Leads (cursor : Cursor) (passed : List Char) (after : Cursor) : Prop where
  rest : cursor.rest = passed ++ after.rest
  advance : cursor.advance passed.length = after

/-- Whether passing some text leads from a cursor to another one. -/
def LeadsTo (cursor after : Cursor) : Prop :=
  ∃ passed, cursor.Leads passed after

section Leads

variable {cursor middle after : Cursor} {passed further : List Char}

theorem Leads.refl (cursor : Cursor) : cursor.Leads [] cursor where
  rest := rfl
  advance := rfl

theorem Leads.trans (h : cursor.Leads passed middle) (h' : middle.Leads further after) :
    cursor.Leads (passed ++ further) after where
  rest := by
    rw [h.rest, h'.rest, List.append_assoc]
  advance := by
    rw [List.length_append, advance_add, h.advance, h'.advance]

theorem Leads.cons {p : Position} {c : Char} {s : List Char}
    (h : Leads ⟨p.step c s, s⟩ passed after) : Leads ⟨p, c :: s⟩ (c :: passed) after where
  rest := congrArg (c :: ·) h.rest
  advance := h.advance

theorem leads_advance (n : Nat) (cursor : Cursor) :
    cursor.Leads (cursor.rest.take n) (cursor.advance n) := by
  induction n generalizing cursor with
  | zero => exact .refl cursor
  | succ n ih =>
    rcases cursor with ⟨p, _ | ⟨c, s⟩⟩
    · have hend := ih ⟨p, []⟩
      rwa [List.take_nil] at hend ⊢
    · exact Leads.cons (ih ⟨p.step c s, s⟩)

theorem leads_skipWhile (holds : Char → Bool) (cursor : Cursor) :
    cursor.Leads (cursor.takeWhile holds) (cursor.skipWhile holds) := by
  obtain ⟨p, s⟩ := cursor
  rw [takeWhile, skipWhile]
  induction s generalizing p with
  | nil => exact .refl _
  | cons c s ih =>
    by_cases hc : holds c = true
    · rw [List.takeWhile_cons_of_pos hc, skipFrom, if_pos hc]
      exact Leads.cons (ih _)
    · rw [List.takeWhile_cons_of_neg hc, skipFrom, if_neg hc]
      exact .refl _

theorem LeadsTo.trans (h : cursor.LeadsTo middle) (h' : middle.LeadsTo after) :
    cursor.LeadsTo after := by
  obtain ⟨passed, h⟩ := h
  obtain ⟨further, h'⟩ := h'
  exact ⟨passed ++ further, h.trans h'⟩

theorem leadsTo_advance (n : Nat) (cursor : Cursor) : cursor.LeadsTo (cursor.advance n) :=
  ⟨_, leads_advance n cursor⟩

theorem leadsTo_next (cursor : Cursor) : cursor.LeadsTo cursor.next :=
  leadsTo_advance 1 cursor

theorem leadsTo_skipWhile (holds : Char → Bool) (cursor : Cursor) :
    cursor.LeadsTo (cursor.skipWhile holds) :=
  ⟨_, leads_skipWhile holds cursor⟩

end Leads

end Cursor

open Cursor

section Lexemes

variable {cursor after : Cursor}

theorem leadsTo_of_unicodeEscape {c : Char} (h : unicodeEscape cursor = .ok (c, after)) :
    cursor.LeadsTo after := by
  unfold unicodeEscape at h
  split at h
  · have hdigits : (cursor.advance 2).LeadsTo (unicodeDigits (cursor.advance 2)).2 := by
      unfold unicodeDigits
      split
      · exact ((leadsTo_next _).trans (leadsTo_skipWhile _ _)).trans (leadsTo_next _)
      · exact leadsTo_advance 4 _
    dsimp only at h
    split at h
    · cases h
      exact (leadsTo_advance 2 cursor).trans hdigits
    · cases h
  · cases h

theorem leadsTo_of_hexadecimalEscape {c : Char} (h : hexadecimalEscape cursor = .ok (c, after)) :
    cursor.LeadsTo after := by
  unfold hexadecimalEscape at h
  dsimp only at h
  split at h
  · cases h
    exact leadsTo_advance 2 cursor
  · cases h

theorem leadsTo_of_stringEscape {opened : Position} {decoded : List Char}
    (h : stringEscape opened cursor = .ok (decoded, after)) : cursor.LeadsTo after := by
  have hbackslash := leadsTo_advance 2 cursor
  unfold stringEscape at h
  split at h
  · cases h
  · dsimp only at h
    split at h
    · split at h
      · rename_i hescape
        cases h
        exact leadsTo_of_unicodeEscape hescape
      · cases h
    · split at h
      · split at h
        · rename_i hescape
          cases h
          exact hbackslash.trans (leadsTo_of_hexadecimalEscape hescape)
        · cases h
      · split at h
        · cases h
          split
          · exact hbackslash.trans (leadsTo_next _)
          · exact hbackslash
        · cases h
          exact hbackslash

theorem leadsTo_of_readStringLiteral {quote : Char} {opened : Position} {value : List Char}
    (h : readStringLiteral quote opened cursor = .ok (value, after)) : cursor.LeadsTo after := by
  fun_induction readStringLiteral quote opened cursor generalizing value after with
  | case1 => cases h
  | case2 => cases h
  | case3 cursor =>
    cases h
    exact leadsTo_next cursor
  | case4 _ _ _ _ _ _ _ _ _ hescape _ _ htail ih =>
    cases h
    exact (leadsTo_of_stringEscape hescape).trans (ih htail)
  | case5 => cases h
  | case6 => cases h
  | case7 cursor _ _ _ _ _ _ _ _ htail ih =>
    cases h
    exact (leadsTo_next cursor).trans (ih htail)
  | case8 => cases h

theorem leadsTo_of_regexBody {opened p : Position} {inClass escaped : Bool} {s : List Char}
    (h : regexBody opened inClass escaped p s = .ok after) : Cursor.LeadsTo ⟨p, s⟩ after := by
  induction s generalizing inClass escaped p with
  | nil => cases h
  | cons c s ih =>
    have hnext : Cursor.LeadsTo ⟨p, c :: s⟩ ⟨p.step c s, s⟩ := leadsTo_next _
    rw [regexBody] at h
    split at h
    · cases h
    · split at h
      · exact hnext.trans (ih h)
      · split at h
        · exact hnext.trans (ih h)
        · split at h
          · cases h
            exact hnext
          · exact hnext.trans (ih h)

theorem leadsTo_of_readRegularExpression (h : readRegularExpression cursor = .ok after) :
    cursor.LeadsTo after := by
  unfold readRegularExpression at h
  split at h
  · rename_i body hbody
    cases h
    have hopened := (leadsTo_next cursor).trans (leadsTo_of_regexBody hbody)
    exact hopened.trans (leadsTo_skipWhile isNamePart body)
  · cases h

/-- A name is the text that is passed, unless that has an escape. -/
theorem leads_of_readName {name : List Char} (h : readName cursor = .ok (name, after)) :
    ∃ passed, cursor.Leads passed after ∧ ('\\' ∉ passed → name = passed) := by
  fun_induction readName cursor generalizing name after with
  | case1 cursor =>
    cases h
    exact ⟨[], .refl cursor, fun _ => rfl⟩
  | case2 cursor c s hs hc decoded behind hescape name last hread ih =>
    cases h
    obtain ⟨passed, hpassed⟩ := leadsTo_of_unicodeEscape hescape
    obtain ⟨further, hfurther, -⟩ := ih hread
    refine ⟨passed ++ further, hpassed.trans hfurther, fun hplain => ?_⟩
    have hlt := remaining_unicodeEscape_lt hescape
    rcases passed with _ | ⟨d, passed⟩
    · cases hpassed.advance
      exact absurd hlt (Nat.lt_irrefl _)
    · obtain rfl : d = c := by
        have hrest := hs.symm.trans hpassed.rest
        exact (List.cons.inj hrest).1.symm
      rw [beq_iff_eq] at hc
      exact absurd (hc ▸ List.mem_cons_self) hplain
  | case3 => cases h
  | case4 => cases h
  | case5 cursor c s hs hc hpart name last hread ih =>
    cases h
    obtain ⟨p, rest⟩ := cursor
    obtain rfl : rest = c :: s := hs
    obtain ⟨passed, hpassed, hname⟩ := ih hread
    refine ⟨c :: passed, .cons hpassed, fun hplain => ?_⟩
    rw [hname fun hmem => hplain (List.mem_cons_of_mem c hmem)]
  | case6 => cases h
  | case7 cursor =>
    cases h
    exact ⟨[], .refl cursor, fun _ => rfl⟩

end Lexemes

/-- Whether a text spells a token of a kind and a value. The text of the other kinds is not their
value. -/
def Spells (kind : TokenClass) (value : String) (lexeme : List Char) : Prop :=
  match kind with
  | .punctuator | .number => value.toList = lexeme
  | .name => '\\' ∉ lexeme → value.toList = lexeme
  | .privateName => ∃ name, lexeme = '#' :: name ∧ ('\\' ∉ name → value.toList = name)
  | .string | .template | .regex | .element => True

theorem numberTail_prefix (hexadecimal : Bool) (previous : Char) (s : List Char) :
    numberTail hexadecimal previous s <+: s := by
  induction s generalizing previous with
  | nil => exact List.prefix_rfl
  | cons c s ih =>
    rw [numberTail]
    split
    · exact List.cons_prefix_cons.2 ⟨rfl, ih c⟩
    · exact List.nil_prefix

theorem numberText_isPrefix (s : List Char) : numberText s <+: s := by
  cases s with
  | nil => exact List.prefix_rfl
  | cons c s => exact List.cons_prefix_cons.2 ⟨rfl, numberTail_prefix _ c s⟩

theorem punctuator?_isPrefix {s text : List Char} (h : punctuator? s = some text) : text <+: s := by
  unfold punctuator? at h
  split at h
  · cases h
  · rename_i c s
    split at h
    · rename_i found hfound
      cases h
      have hprefix := List.find?_some hfound
      exact List.isPrefixOf_iff_prefix.1 hprefix
    · split at h
      · cases h
        exact List.cons_prefix_cons.2 ⟨rfl, List.nil_prefix⟩
      · cases h

/-- Passing as many characters as a text has that stands in front is passing that text. -/
theorem leads_of_prefix {cursor : Cursor} {text : List Char} (h : text <+: cursor.rest) :
    cursor.Leads text (cursor.advance text.length) := by
  have hleads := leads_advance text.length cursor
  rwa [← List.prefix_iff_eq_take.1 h] at hleads

/-- A token without others in it is spelled by the text that its reader passes. -/
theorem ReadsPlain.spells {before : List Token} {cursor after : Cursor}
    {result : TokenClass × String} (h : ReadsPlain before cursor result after) :
    ∃ lexeme, cursor.Leads lexeme after ∧ Spells result.1 result.2 lexeme := by
  cases h with
  | name hstart hread =>
    obtain ⟨lexeme, hleads, hname⟩ := leads_of_readName hread
    exact ⟨lexeme, hleads, fun hplain => by rw [String.toList_ofList, hname hplain]⟩
  | privateName hstart hread =>
    obtain ⟨lexeme, hleads, hname⟩ := leads_of_readName hread
    refine ⟨'#' :: lexeme, .cons hleads, lexeme, rfl, fun hplain => ?_⟩
    rw [String.toList_ofList, hname hplain]
  | number => exact ⟨_, leads_of_prefix (numberText_isPrefix _), String.toList_ofList⟩
  | string hquote hread =>
    obtain ⟨lexeme, hleads⟩ := (leadsTo_next _).trans (leadsTo_of_readStringLiteral hread)
    exact ⟨lexeme, hleads, trivial⟩
  | regex hawaits hread =>
    obtain ⟨lexeme, hleads⟩ := leadsTo_of_readRegularExpression hread
    exact ⟨lexeme, hleads, trivial⟩
  | punctuator hstarts hmark =>
    exact ⟨_, leads_of_prefix (punctuator?_isPrefix hmark), String.toList_ofList⟩

end RouteTable.Script
