import RouteTable.Proofs.Exports.Reach
import RouteTable.Proofs.Script.Brackets

/-!
Type annotations token by token, with the number of angle brackets that are open before and after.
Passing an annotation follows this number, so that what counts is how many brackets are open at its
end: the annotation of a declarator ends at the `=` of the initializer if none is.
-/

namespace RouteTable.Exports

open Script

/-- Tokens whose parentheses, brackets and braces are closed among themselves. -/
inductive Balanced : List Token → Prop where
  | nil : Balanced []
  | plain {token : Token} {rest : List Token} (hopener : token.isOpener = false)
      (hcloser : token.isCloser = false) (h : Balanced rest) : Balanced (token :: rest)
  | group {opener closer : Token} {inner rest : List Token} (hopener : opener.isOpener = true)
      (hinner : Balanced inner) (hcloser : closer.isCloser = true) (h : Balanced rest) :
      Balanced (opener :: inner ++ closer :: rest)

/-- Whether a token ends a type annotation that has no open angle bracket. -/
def endsType (token : Token) : Bool :=
  opensStatement token || token.isPunctuator "=" || token.isPunctuator "," ||
    token.isPunctuator ";"

/-- Whether a token is part of a type and neither a bracket nor an angle bracket. -/
def isTypePart (token : Token) : Bool :=
  !token.isOpener && !token.isCloser && !token.isPunctuator "<" && closedAngles token == 0

/-- Tokens of a type annotation that take the number of open angle brackets from the first number
to the second. -/
inductive Spans : Nat → List Token → Nat → Prop where
  | nil {n : Nat} : Spans n [] n
  | group {m n : Nat} {opener closer : Token} {inner rest : List Token}
      (hopener : opener.isOpener = true) (hinner : Balanced inner)
      (hcloser : closer.isCloser = true) (h : Spans m rest n) :
      Spans m (opener :: inner ++ closer :: rest) n
  | opens {m n : Nat} {token : Token} {rest : List Token} (hangle : token.isPunctuator "<" = true)
      (h : Spans (m + 1) rest n) : Spans m (token :: rest) n
  | closes {m n : Nat} {token : Token} {rest : List Token} (hangle : closedAngles token ≠ 0)
      (hle : closedAngles token ≤ m) (h : Spans (m - closedAngles token) rest n) :
      Spans m (token :: rest) n
  | part {m n : Nat} {token : Token} {rest : List Token} (htype : isTypePart token = true)
      (hends : m = 0 → endsType token = false) (h : Spans m rest n) :
      Spans m (token :: rest) n

theorem opensStatement_of_punctuator {token : Token} (h : token.kind = .punctuator) :
    opensStatement token = false := by
  simp [opensStatement, Token.isAnyName, h]

/-- Inside a group, balanced tokens are passed without any change of depth. -/
theorem passGroupFrom_balanced {tokens : List Token} (h : Balanced tokens) {depth : Nat}
    (hdepth : 0 < depth) (previous : Option Token) (rest : List Token) :
    passGroupFrom depth previous (tokens ++ rest) =
      passGroupFrom depth (lastOf previous tokens) rest := by
  induction h generalizing depth previous rest with
  | nil => rfl
  | plain hopener hcloser h ih =>
    rw [List.cons_append, passGroupFrom, if_neg (by simp [hopener]), if_neg (by simp [hcloser]),
      ih hdepth, lastOf_cons]
  | @group opener closer inner tail hopener hinner hcloser h ihInner ih =>
    have hplain : ¬ closer.isOpener = true := by
      rw [isOpener_of_isCloser hcloser]
      exact Bool.false_ne_true
    have hdeep : ¬ depth + 1 ≤ 1 := by omega
    have hinside : 0 < depth + 1 := by omega
    rw [List.append_assoc, List.cons_append, passGroupFrom, if_pos hopener,
      ihInner hinside, List.cons_append, passGroupFrom, if_neg hplain,
      if_pos hcloser, if_neg hdeep, Nat.add_sub_cancel, ih hdepth]
    simp only [List.cons_append, lastOf_cons, lastOf_append]

/-- A group is passed up to its closer. -/
theorem passGroup_balanced {opener closer : Token} {inner : List Token}
    (hopener : opener.isOpener = true) (hinner : Balanced inner)
    (hcloser : closer.isCloser = true) (previous : Option Token) (rest : List Token) :
    passGroup ⟨previous, opener :: inner ++ closer :: rest⟩ = ⟨some closer, rest⟩ := by
  have hplain : ¬ closer.isOpener = true := by
    rw [isOpener_of_isCloser hcloser]
    exact Bool.false_ne_true
  rw [passGroup, List.cons_append, passGroupFrom, if_pos hopener,
    passGroupFrom_balanced hinner (Nat.succ_pos 0), passGroupFrom, if_neg hplain,
    if_pos hcloser, if_pos (Nat.le_refl _)]

/-- The steps of passing an annotation, one for each form of a first token. -/
theorem passAnnotatedType_cons (angles : Nat) (previous : Option Token) (token : Token)
    (rest : List Token) :
    passAnnotatedType angles ⟨previous, token :: rest⟩ =
      if angles = 0 && opensStatement token then ⟨previous, token :: rest⟩
      else if token.isOpener then passAnnotatedType angles (passGroup ⟨previous, token :: rest⟩)
      else if token.isPunctuator "<" then passAnnotatedType (angles + 1) ⟨some token, rest⟩
      else if closedAngles token ≠ 0 then
        passAnnotatedType (angles - closedAngles token) ⟨some token, rest⟩
      else if angles = 0 &&
          (token.isPunctuator "=" || token.isPunctuator "," || token.isPunctuator ";") then
        ⟨previous, token :: rest⟩
      else if token.isCloser then ⟨previous, token :: rest⟩
      else passAnnotatedType angles ⟨some token, rest⟩ := by
  rw [passAnnotatedType]
  rfl

theorem passAnnotatedType_nil (angles : Nat) (previous : Option Token) :
    passAnnotatedType angles ⟨previous, []⟩ = ⟨previous, []⟩ := by
  rw [passAnnotatedType]
  rfl

/-- A bracket of either sort does not open a statement. -/
theorem opensStatement_of_isOpener {token : Token} (h : token.isOpener = true) :
    opensStatement token = false := by
  simp only [Token.isOpener, Bool.and_eq_true, beq_iff_eq] at h
  exact opensStatement_of_punctuator h.1

theorem kind_of_isPunctuator {token : Token} {text : String}
    (h : token.isPunctuator text = true) : token.kind = .punctuator ∧ token.value = text := by
  simp only [Token.isPunctuator, Bool.and_eq_true, beq_iff_eq] at h
  exact h

/-- The tokens that close angle brackets. -/
theorem closedAngles_ne_zero {token : Token} (h : closedAngles token ≠ 0) :
    token.kind = .punctuator ∧
      (token.value = ">" ∨ token.value = ">>" ∨ token.value = ">>>") := by
  unfold closedAngles at h
  split at h
  · rename_i hmark
    obtain ⟨hkind, hvalue⟩ := kind_of_isPunctuator hmark
    exact ⟨hkind, Or.inl hvalue⟩
  · split at h
    · rename_i hmark
      obtain ⟨hkind, hvalue⟩ := kind_of_isPunctuator hmark
      exact ⟨hkind, Or.inr (Or.inl hvalue)⟩
    · split at h
      · rename_i hmark
        obtain ⟨hkind, hvalue⟩ := kind_of_isPunctuator hmark
        exact ⟨hkind, Or.inr (Or.inr hvalue)⟩
      · exact absurd rfl h

/-- Passing tokens of an annotation leaves as many angle brackets open as they do. -/
theorem passAnnotatedType_spans {m n : Nat} {tokens : List Token} (h : Spans m tokens n)
    (previous : Option Token) (rest : List Token) :
    passAnnotatedType m ⟨previous, tokens ++ rest⟩ =
      passAnnotatedType n ⟨lastOf previous tokens, rest⟩ := by
  induction h generalizing previous with
  | nil => rfl
  | @group m n opener closer inner tail hopener hinner hcloser h ih =>
    have hstatement := opensStatement_of_isOpener hopener
    have hgroup := passGroup_balanced hopener hinner hcloser previous (tail ++ rest)
    simp only [List.cons_append, List.append_assoc] at hgroup ⊢
    rw [passAnnotatedType_cons, if_neg (by simp [hstatement]), if_pos hopener, hgroup, ih]
    simp only [lastOf_cons, lastOf_append]
  | @opens m n token tail hangle h ih =>
    obtain ⟨hkind, hvalue⟩ := kind_of_isPunctuator hangle
    have hopener : ¬ token.isOpener = true := by
      rw [Token.isOpener, hkind, hvalue]
      decide
    have hstatement := opensStatement_of_punctuator hkind
    rw [List.cons_append, passAnnotatedType_cons, if_neg (by simp [hstatement]), if_neg hopener,
      if_pos hangle, ih, lastOf_cons]
  | @closes m n token tail hangle hle h ih =>
    obtain ⟨hkind, hvalue⟩ := closedAngles_ne_zero hangle
    have hopener : ¬ token.isOpener = true := by
      rcases hvalue with hvalue | hvalue | hvalue <;>
      · rw [Token.isOpener, hkind, hvalue]
        decide
    have hless : ¬ token.isPunctuator "<" = true := by
      rcases hvalue with hvalue | hvalue | hvalue <;>
      · rw [Token.isPunctuator, hkind, hvalue]
        decide
    have hstatement := opensStatement_of_punctuator hkind
    rw [List.cons_append, passAnnotatedType_cons, if_neg (by simp [hstatement]), if_neg hopener,
      if_neg hless, if_pos hangle, ih, lastOf_cons]
  | @part m n token tail htype hends h ih =>
    simp only [isTypePart, Bool.and_eq_true, Bool.not_eq_true', beq_iff_eq] at htype
    obtain ⟨⟨⟨hopener, hcloser⟩, hless⟩, hangle⟩ := htype
    simp only [endsType, Bool.or_eq_false_iff] at hends
    have hstatement : ¬ (m = 0 && opensStatement token) = true := by
      simp only [Bool.and_eq_true, decide_eq_true_eq, not_and]
      intro hm
      rw [(hends hm).1.1.1]
      exact Bool.false_ne_true
    have hmark : ¬ (m = 0 && (token.isPunctuator "=" || token.isPunctuator "," ||
        token.isPunctuator ";")) = true := by
      simp only [Bool.and_eq_true, decide_eq_true_eq, not_and]
      intro hm
      obtain ⟨⟨⟨-, hassign⟩, hcomma⟩, hsemicolon⟩ := hends hm
      rw [hassign, hcomma, hsemicolon]
      exact Bool.false_ne_true
    rw [List.cons_append, passAnnotatedType_cons, if_neg hstatement, if_neg (by simp [hopener]),
      if_neg (by simp [hless]), if_neg (by simp [hangle]), if_neg hmark,
      if_neg (by simp [hcloser]), ih, lastOf_cons]

end RouteTable.Exports
