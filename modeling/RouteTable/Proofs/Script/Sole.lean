import RouteTable.Proofs.Script.Balance
import RouteTable.Proofs.Script.Leaving

/-!
Sources that start with a lexeme, and those that are a single one.
-/

namespace RouteTable.Script

open Cursor

section Sole

variable {source : String} {c : Char} {s : List Char}

theorem skipInterpreterLine_of_cons (hsource : source.toList = c :: s)
    (hline : ['#', '!'].isPrefixOf (c :: s) = false) :
    skipInterpreterLine (.start source) = ⟨.start, c :: s⟩ := by
  rw [skipInterpreterLine, Cursor.start, hsource, startsWith, hline, if_neg Bool.false_ne_true]

theorem gives_spacing_of_settled {cursor : Cursor} (hsettled : settled cursor.rest = true) :
    Gives (spacing cursor) false cursor :=
  Written.spacing_of_skipSpacing (skipSpacing_of_settled hsettled false cursor.position)

theorem readsLexeme_of_settled (hsettled : settled (c :: s) = true) (p : Position) :
    ReadsLexeme false [] ⟨p, c :: s⟩ false ⟨p, c :: s⟩ :=
  ⟨gives_spacing_of_settled hsettled, c, s, rfl, rfl⟩

/-- Reading a source comes to the lexeme that it starts with. -/
theorem reading_start (hsource : source.toList = c :: s)
    (hline : ['#', '!'].isPrefixOf (c :: s) = false) (hsettled : settled (c :: s) = true) :
    Reading source (.lexeme [] ⟨.start, c :: s⟩) := by
  rw [Reading, skipInterpreterLine_of_cons hsource hline]
  exact .single (.lexeme (readsLexeme_of_settled hsettled .start))

/-- A source that is a single lexeme has a single token. -/
theorem readTokens_of_lexeme (hsource : source.toList = c :: s)
    (hline : ['#', '!'].isPrefixOf (c :: s) = false) (hsettled : settled (c :: s) = true)
    {kind : TokenClass} {value : String} {after : Cursor} (hkind : kind ≠ .punctuator)
    (hread : (readLexeme [] ⟨.start, c :: s⟩).map Subtype.val = .ok ((kind, value), after))
    (hend : after.rest = []) : readTokens source = .ok [⟨kind, value, .start, false⟩] := by
  obtain ⟨hlt, hread⟩ := Written.readLexeme_of_map hread
  have htoken : ReadsToken false [] [] ⟨.start, c :: s⟩ ⟨kind, value, .start, false⟩ after :=
    ⟨_, readsLexeme_of_settled hsettled .start, rfl, hlt, hread⟩
  have htrack : trackBrackets [] ⟨kind, value, .start, false⟩ = .ok [] :=
    trackBrackets_plain (by simp [Token.isOpener, hkind]) (by simp [Token.isCloser, hkind])
  have hnone : Gives (tokensFrom false [⟨kind, value, .start, false⟩] [] after) [] after := by
    refine gives_tokensFrom_end (gives_spacing_of_settled ?_) hend
    rw [hend]
    rfl
  obtain ⟨_, hall⟩ := gives_tokensFrom htoken htrack hnone
  rw [Written.readTokens_eq_readOn, skipInterpreterLine_of_cons hsource hline, Written.readOn, hall]
  rfl

end Sole

end RouteTable.Script
