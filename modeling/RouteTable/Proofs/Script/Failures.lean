import RouteTable.Script.Tokens

/-!
Failures that are not about brackets: those of spacing, of the lexemes that hold no others, and of
what stands in tags apart from scripts.
-/

namespace RouteTable.Script

def LexicalRule.isBracket : LexicalRule → Bool
  | .unclosed _ | .unopened _ | .mismatched _ _ _ => true
  | _ => false

section Leaves

variable {cursor : Cursor} {e : LexicalError}

theorem notBracket_of_blockComment {opened p : Position} {lineEnded : Bool} {s : List Char}
    (h : blockComment opened lineEnded p s = .error e) : e.rule.isBracket = false := by
  induction s generalizing lineEnded p with
  | nil =>
    cases h
    rfl
  | cons c s ih =>
    rw [blockComment] at h
    split at h
    · cases h
    · exact ih h

theorem notBracket_of_skipSpacing {lineEnded : Bool} (h : skipSpacing lineEnded cursor = .error e) :
    e.rule.isBracket = false := by
  fun_induction skipSpacing lineEnded cursor with
  | case1 => cases h
  | case2 _ _ _ _ _ _ ih => exact ih h
  | case3 _ _ _ _ _ _ _ ih => exact ih h
  | case4 _ _ _ _ _ _ _ _ _ _ _ ih => exact ih h
  | case5 _ _ _ _ _ _ _ _ _ hcomment =>
    cases h
    exact notBracket_of_blockComment hcomment
  | case6 => cases h

theorem notBracket_of_spacing (h : spacing cursor = .error e) : e.rule.isBracket = false := by
  unfold spacing at h
  split at h
  · cases h
  · rename_i herror
    cases h
    exact notBracket_of_skipSpacing herror

theorem notBracket_of_unicodeEscape (h : unicodeEscape cursor = .error e) :
    e.rule.isBracket = false := by
  unfold unicodeEscape at h
  dsimp only at h
  split at h
  · split at h
    · cases h
    · cases h
      rfl
  · cases h
    rfl

theorem notBracket_of_hexadecimalEscape (h : hexadecimalEscape cursor = .error e) :
    e.rule.isBracket = false := by
  unfold hexadecimalEscape at h
  dsimp only at h
  split at h
  · cases h
  · cases h
    rfl

theorem notBracket_of_readName (h : readName cursor = .error e) : e.rule.isBracket = false := by
  fun_induction readName cursor with
  | case1 => cases h
  | case2 => cases h
  | case3 _ _ _ _ _ _ _ _ _ hname ih =>
    cases h
    exact ih hname
  | case4 _ _ _ _ _ _ hescape =>
    cases h
    exact notBracket_of_unicodeEscape hescape
  | case5 => cases h
  | case6 _ _ _ _ _ _ _ hname ih =>
    cases h
    exact ih hname
  | case7 => cases h

theorem notBracket_of_stringEscape {opened : Position} (h : stringEscape opened cursor = .error e) :
    e.rule.isBracket = false := by
  unfold stringEscape at h
  split at h
  · cases h
    rfl
  · dsimp only at h
    split at h
    · split at h
      · cases h
      · rename_i herror
        cases h
        exact notBracket_of_unicodeEscape herror
    · split at h
      · split at h
        · cases h
        · rename_i herror
          cases h
          exact notBracket_of_hexadecimalEscape herror
      · split at h <;> cases h

theorem notBracket_of_readStringLiteral {quote : Char} {opened : Position}
    (h : readStringLiteral quote opened cursor = .error e) : e.rule.isBracket = false := by
  fun_induction readStringLiteral quote opened cursor with
  | case1 =>
    cases h
    rfl
  | case2 =>
    cases h
    rfl
  | case3 => cases h
  | case4 => cases h
  | case5 _ _ _ _ _ _ _ _ _ _ _ htail ih =>
    cases h
    exact ih htail
  | case6 _ _ _ _ _ _ _ _ hescape =>
    cases h
    exact notBracket_of_stringEscape hescape
  | case7 => cases h
  | case8 _ _ _ _ _ _ _ _ htail ih =>
    cases h
    exact ih htail

theorem notBracket_of_regexBody {opened p : Position} {inClass escaped : Bool} {s : List Char}
    (h : regexBody opened inClass escaped p s = .error e) : e.rule.isBracket = false := by
  induction s generalizing inClass escaped p with
  | nil =>
    cases h
    rfl
  | cons c s ih =>
    rw [regexBody] at h
    split at h
    · cases h
      rfl
    · split at h
      · exact ih h
      · split at h
        · exact ih h
        · split at h
          · cases h
          · exact ih h

theorem notBracket_of_readRegularExpression (h : readRegularExpression cursor = .error e) :
    e.rule.isBracket = false := by
  unfold readRegularExpression at h
  split at h
  · cases h
  · rename_i herror
    cases h
    exact notBracket_of_regexBody herror

theorem notBracket_of_readPlain {before : List Token} (h : readPlain before cursor = .error e) :
    e.rule.isBracket = false := by
  unfold readPlain at h
  split at h
  · cases h
    rfl
  · split at h
    · split at h
      · rename_i herror
        cases h
        exact notBracket_of_readName herror
      · cases h
    · split at h
      · split at h
        · rename_i herror
          cases h
          exact notBracket_of_readName herror
        · cases h
      · split at h
        · cases h
        · split at h
          · split at h
            · rename_i herror
              cases h
              exact notBracket_of_readStringLiteral herror
            · cases h
          · split at h
            · split at h
              · rename_i herror
                cases h
                exact notBracket_of_readRegularExpression herror
              · cases h
            · split at h
              · cases h
              · cases h
                rfl

theorem notBracket_of_skipQuoted {quote : Char} {opened : Position}
    (h : skipQuoted quote opened cursor = .error e) : e.rule.isBracket = false := by
  unfold skipQuoted at h
  dsimp only at h
  split at h
  · cases h
    rfl
  · cases h

theorem notBracket_of_closingTag {name : String} (h : closingTag name cursor = .error e) :
    e.rule.isBracket = false := by
  unfold closingTag at h
  split at h
  · rename_i herror
    cases h
    exact notBracket_of_spacing herror
  · dsimp only at h
    split at h
    · rename_i herror
      cases h
      exact notBracket_of_spacing herror
    · split at h
      · split at h
        · cases h
        · cases h
          rfl
      · cases h
        rfl

end Leaves

end RouteTable.Script
