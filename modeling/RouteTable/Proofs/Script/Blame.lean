import RouteTable.Proofs.Script.Failures
import RouteTable.Proofs.Script.Readers

/-!
Where errors about brackets come from. A reader that fails with one either is a script that comes to
it itself, or has called a reader that fails with it, and so on down to such a script.
-/

namespace RouteTable.Script

namespace Reader

section Step

variable {e : LexicalError}

theorem blame_script {embedded : Bool} {before : List Token} {opened : List OpenBracket}
    {cursor : Cursor} (h : tokensFrom embedded before opened cursor = .error e)
    (hrule : e.rule.isBracket = true) :
    (script embedded before opened cursor).Faults e ∨
      ∃ called, Calls (.script embedded before opened cursor) called ∧ called.Fails e := by
  rw [tokensFrom] at h
  split at h
  · rename_i herror
    cases h
    cases (notBracket_of_spacing herror).symm.trans hrule
  · rename_i freshLine start hle hspacing
    split at h
    · rename_i hend
      split at h
      · cases h
        exact .inl (.unclosed ⟨freshLine, start, ⟨hle, hspacing⟩, hend⟩)
      · split at h
        · cases h
          cases hrule
        · cases h
    · rename_i c s hrest
      split at h
      · cases h
      · rename_i hgoes
        have hlexeme : ReadsLexeme embedded opened cursor freshLine start :=
          ⟨⟨hle, hspacing⟩, c, s, hrest, Bool.eq_false_iff.2 hgoes⟩
        split at h
        · rename_i herror
          cases h
          exact .inr ⟨.lexeme before start, .lexeme hlexeme, herror⟩
        · rename_i kind value after hlt hread
          dsimp only at h
          split at h
          · rename_i herror
            cases h
            exact .inl (.closer ⟨start, hlexeme, rfl, hlt, hread⟩ herror)
          · rename_i stillOpened htrack
            split at h
            · rename_i herror
              cases h
              exact .inr ⟨_, .further ⟨start, hlexeme, rfl, hlt, hread⟩ htrack, herror⟩
            · cases h

theorem blame_lexeme {before : List Token} {cursor : Cursor}
    (h : readLexeme before cursor = .error e) (hrule : e.rule.isBracket = true) :
    ∃ called, Calls (.lexeme before cursor) called ∧ called.Fails e := by
  rcases cursor with ⟨p, _ | ⟨c, s⟩⟩
  · rw [readLexeme] at h
    cases (notBracket_of_readPlain h).symm.trans hrule
  · rw [readLexeme] at h
    dsimp only at h
    split at h
    · rename_i hquote
      obtain rfl : c = '\x60' := by simpa using hquote
      split at h
      · rename_i herror
        cases h
        exact ⟨_, .template, herror⟩
      · cases h
    · split at h
      · rename_i hopens
        simp only [Bool.and_eq_true, beq_iff_eq] at hopens
        obtain ⟨⟨rfl, hoperand⟩, hopens⟩ := hopens
        split at h
        · rename_i herror
          cases h
          exact ⟨_, .element hoperand hopens, herror⟩
        · cases h
      · cases (notBracket_of_readPlain h).symm.trans hrule

theorem blame_template {opened : Position} {cursor : Cursor}
    (h : readTemplateLiteral opened cursor = .error e) (hrule : e.rule.isBracket = true) :
    ∃ called, Calls (.template opened cursor) called ∧ called.Fails e := by
  rcases cursor with ⟨p, _ | ⟨c, s⟩⟩
  · rw [readTemplateLiteral] at h
    cases h
    cases hrule
  · rw [readTemplateLiteral] at h
    dsimp only at h
    split at h
    · cases h
    · rename_i hend
      split at h
      · rename_i hescape
        obtain rfl : c = '\\' := by simpa using hescape
        rcases s with _ | ⟨d, s⟩
        · cases h
          cases hrule
        · rw [if_neg (by simp)] at h
          split at h
          · rename_i herror
            cases h
            exact ⟨_, .templateEscape, herror⟩
          · cases h
      · rename_i hescape
        split at h
        · rename_i hscript
          rcases s with _ | ⟨d, s⟩
          · simp at hscript
          · simp only [List.head?_cons, Bool.and_eq_true, beq_iff_eq, Option.some.injEq] at hscript
            obtain ⟨rfl, rfl⟩ := hscript
            split at h
            · rename_i herror
              cases h
              exact ⟨_, .templateScript, herror⟩
            · rename_i hgives
              split at h
              · rename_i herror
                cases h
                exact ⟨_, .templateAfter ⟨_, hgives⟩, herror⟩
              · cases h
        · rename_i hscript
          split at h
          · rename_i herror
            cases h
            refine ⟨_, .templateText (by simpa using hend) (by simpa using hescape) ?_, herror⟩
            simpa using hscript
          · cases h

theorem blame_element {cursor : Cursor} (h : readElement cursor = .error e)
    (hrule : e.rule.isBracket = true) :
    ∃ called, Calls (.element cursor) called ∧ called.Fails e := by
  rw [readElement] at h
  split at h
  · rename_i herror
    cases h
    cases (notBracket_of_spacing herror).symm.trans hrule
  · rename_i hspacing
    split at h
    · rename_i hend
      split at h
      · rename_i herror
        cases h
        exact ⟨_, .fragment ⟨_, hspacing⟩ hend, herror⟩
      · cases h
    · rename_i hend
      dsimp only at h
      split at h
      · rename_i herror
        cases h
        exact ⟨_, .tagName ⟨_, hspacing⟩ (Bool.eq_false_iff.2 hend), herror⟩
      · cases h

/-- Behind the name of an attribute, its value and the attributes behind it are read. -/
theorem blame_attributeName {opened p : Position} {name : String} {cursor : Cursor}
    {freshLine : Bool} {c : Char} {s : List Char}
    (hspacing : Gives (spacing cursor) freshLine ⟨p, c :: s⟩) (hstart : isNameStart c = true)
    (hstalled : c ≠ '\\') (h : readAttributes opened name cursor = .error e)
    (hrule : e.rule.isBracket = true) :
    ∃ called, Calls (.attributes opened name cursor) called ∧ called.Fails e := by
  obtain ⟨hle, hread⟩ := hspacing
  obtain ⟨hslash, hangle, hbrace⟩ := ne_of_isNameStart hstart
  rw [readAttributes] at h
  simp only [hread, beq_iff_eq, hslash, hangle, hbrace, hstalled, hstart, if_false,
    dite_false, dite_true] at h
  split at h
  · rename_i herror
    cases h
    cases (notBracket_of_spacing herror).symm.trans hrule
  · rename_i hnext
    have hname : NamesAttribute cursor _ :=
      ⟨_, _, p, c, s, ⟨hle, hread⟩, hstart, hstalled, ⟨_, hnext⟩⟩
    split at h
    · rename_i hvalue
      split at h
      · rename_i herror
        cases h
        cases (notBracket_of_spacing herror).symm.trans hrule
      · rename_i hassigned
        split at h
        · rename_i herror
          cases h
          exact ⟨_, .value hname hvalue ⟨_, hassigned⟩, herror⟩
        · rename_i hgives
          split at h
          · rename_i herror
            cases h
            exact ⟨_, .valueAfter hname hvalue ⟨_, hassigned⟩ ⟨_, hgives⟩, herror⟩
          · cases h
    · rename_i hvalue
      split at h
      · rename_i herror
        cases h
        exact ⟨_, .bareName hname (Bool.eq_false_iff.2 hvalue), herror⟩
      · cases h

theorem blame_attributes {opened : Position} {name : String} {cursor : Cursor}
    (h : readAttributes opened name cursor = .error e) (hrule : e.rule.isBracket = true) :
    ∃ called, Calls (.attributes opened name cursor) called ∧ called.Fails e := by
  have hread := h
  rw [readAttributes] at h
  split at h
  · rename_i herror
    cases h
    cases (notBracket_of_spacing herror).symm.trans hrule
  · rename_i freshLine start hle hspacing
    rcases start with ⟨p, _ | ⟨c, s⟩⟩
    · cases h
      cases hrule
    · dsimp only at h
      split at h
      · split at h
        · cases h
        · cases h
          cases hrule
      · split at h
        · rename_i hend
          obtain rfl : c = '>' := by simpa using hend
          split at h
          · rename_i herror
            cases h
            exact ⟨_, .tagEnd ⟨_, hspacing⟩, herror⟩
          · cases h
        · split at h
          · rename_i hbrace
            obtain rfl : c = '\x7b' := by simpa using hbrace
            split at h
            · rename_i herror
              cases h
              exact ⟨_, .attributeScript ⟨_, hspacing⟩, herror⟩
            · rename_i hgives
              split at h
              · rename_i herror
                cases h
                exact ⟨_, .attributeAfter ⟨_, hspacing⟩ ⟨_, hgives⟩, herror⟩
              · cases h
          · split at h
            · cases h
              cases hrule
            · rename_i hstalled
              split at h
              · rename_i hstart
                exact blame_attributeName ⟨hle, hspacing⟩ hstart hstalled hread hrule
              · cases h
                cases hrule

theorem blame_attributeValue {cursor : Cursor} (h : readAttributeValue cursor = .error e)
    (hrule : e.rule.isBracket = true) :
    ∃ called, Calls (.attributeValue cursor) called ∧ called.Fails e := by
  rcases cursor with ⟨p, _ | ⟨c, s⟩⟩
  · rw [readAttributeValue] at h
    cases h
    cases hrule
  · rw [readAttributeValue] at h
    dsimp only at h
    split at h
    · split at h
      · rename_i herror
        cases h
        cases (notBracket_of_skipQuoted herror).symm.trans hrule
      · cases h
    · split at h
      · rename_i hbrace
        obtain rfl : c = '\x7b' := by simpa using hbrace
        split at h
        · rename_i herror
          cases h
          exact ⟨_, .valueScript, herror⟩
        · cases h
      · split at h
        · rename_i hangle
          obtain rfl : c = '<' := by simpa using hangle
          split at h
          · rename_i herror
            cases h
            exact ⟨_, .valueElement, herror⟩
          · cases h
        · cases h
          cases hrule

theorem blame_children {opened : Position} {name : String} {cursor : Cursor}
    (h : readChildren opened name cursor = .error e) (hrule : e.rule.isBracket = true) :
    ∃ called, Calls (.children opened name cursor) called ∧ called.Fails e := by
  rcases cursor with ⟨p, _ | ⟨c, s⟩⟩
  · rw [readChildren] at h
    cases h
    dsimp only at hrule
    split at hrule <;> cases hrule
  · rw [readChildren] at h
    dsimp only at h
    split at h
    · rename_i hbrace
      obtain rfl : c = '\x7b' := by simpa using hbrace
      split at h
      · rename_i herror
        cases h
        exact ⟨_, .childScript, herror⟩
      · rename_i hgives
        split at h
        · rename_i herror
          cases h
          exact ⟨_, .childScriptAfter ⟨_, hgives⟩, herror⟩
        · cases h
    · rename_i hscript
      split at h
      · rename_i hangle
        obtain rfl : c = '<' := by simpa using hangle
        split at h
        · rename_i herror
          cases h
          cases (notBracket_of_spacing herror).symm.trans hrule
        · rename_i hspacing
          split at h
          · split at h
            · rename_i herror
              cases h
              cases (notBracket_of_closingTag herror).symm.trans hrule
            · cases h
          · rename_i hopens
            split at h
            · rename_i herror
              cases h
              exact ⟨_, .childElement ⟨_, hspacing⟩ (Bool.eq_false_iff.2 hopens), herror⟩
            · rename_i hread
              split at h
              · rename_i herror
                cases h
                exact ⟨_, .childElementAfter ⟨_, hspacing⟩ (Bool.eq_false_iff.2 hopens) ⟨_, hread⟩,
                  herror⟩
              · cases h
      · rename_i hopens
        split at h
        · rename_i herror
          cases h
          exact ⟨_, .childText (by simpa using hscript) (by simpa using hopens), herror⟩
        · cases h

end Step

/-- A reader that fails over brackets comes to the error itself or calls one that fails with it. -/
theorem faults_or_calls {reader : Reader} {e : LexicalError} (h : reader.Fails e)
    (hrule : e.rule.isBracket = true) :
    reader.Faults e ∨ ∃ called, Calls reader called ∧ called.Fails e := by
  cases reader with
  | script => exact blame_script h hrule
  | lexeme => exact .inr (blame_lexeme h hrule)
  | template => exact .inr (blame_template h hrule)
  | element => exact .inr (blame_element h hrule)
  | attributes => exact .inr (blame_attributes h hrule)
  | attributeValue => exact .inr (blame_attributeValue h hrule)
  | children => exact .inr (blame_children h hrule)

theorem fails_of_faults {reader : Reader} {e : LexicalError} (h : reader.Faults e) :
    reader.Fails e := by
  cases h with
  | @closer embedded before opened cursor after token e h htrack =>
    have hmap := map_tokensFrom_of_readsToken h
    rw [htrack] at hmap
    exact eq_error_of_map hmap
  | unclosed h =>
    obtain ⟨freshLine, ⟨q, rest⟩, ⟨hle, hspacing⟩, hend⟩ := h
    obtain rfl : rest = [] := hend
    rw [Fails, tokensFrom]
    simp only [hspacing]

/-- A reader fails over brackets exactly with what a script comes to that it calls, directly or
through other readers. -/
theorem fails_iff {reader : Reader} {e : LexicalError} (hrule : e.rule.isBracket = true) :
    reader.Fails e ↔ ∃ last, Relation.ReflTransGen Calls reader last ∧ last.Faults e := by
  constructor
  · intro h
    induction hweight : reader.weight using Nat.strongRecOn generalizing reader with
    | ind n ih =>
      rcases faults_or_calls h hrule with hfaults | ⟨called, hcall, hcalled⟩
      · exact ⟨reader, .refl, hfaults⟩
      · have hlt := weight_lt_of_calls hcall
        rw [hweight] at hlt
        obtain ⟨last, hreach, hfaults⟩ := ih _ hlt hcalled rfl
        exact ⟨last, .head hcall hreach, hfaults⟩
  · rintro ⟨last, hreach, hfaults⟩
    induction hreach using Relation.ReflTransGen.head_induction_on with
    | refl => exact fails_of_faults hfaults
    | head hcall _ ih => exact fails_of_calls hcall ih

end Reader

end RouteTable.Script
