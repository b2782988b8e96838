import RouteTable.Proofs.Exports.Parsers

/-!
What a scan passes when more tokens stand behind those of a module, the first of them a semicolon.
No reader goes over a semicolon that stands outside of brackets, and none takes it for anything that
it looks for, so that groups, type arguments and expressions are passed as if the tokens ended
there. A type annotation is, unless one of its angle brackets is still open.
-/

namespace RouteTable.Exports

open Script

def StartsWithSemicolon (more : List Token) : Prop :=
  ∃ semicolon rest, more = semicolon :: rest ∧ semicolon.isPunctuator ";" = true

/-- The same place, with more tokens behind those to come. -/
def Place.followedBy (place : Place) (more : List Token) : Place :=
  ⟨place.previous, place.rest ++ more⟩

section Peeking

variable {place : Place} {token : Token} {more : List Token}

theorem first?_followedBy (h : place.first? = some token) :
    (place.followedBy more).first? = some token := by
  rcases place with ⟨previous, _ | ⟨first, rest⟩⟩
  · cases h
  · exact h

theorem next_followedBy (h : place.first? = some token) :
    (place.followedBy more).next = place.next.followedBy more := by
  rcases place with ⟨previous, _ | ⟨first, rest⟩⟩
  · cases h
  · rfl

theorem first?_followedBy_of_none (hmore : StartsWithSemicolon more)
    (h : place.first? = none) :
    ∃ semicolon, (place.followedBy more).first? = some semicolon ∧
      semicolon.isPunctuator ";" = true := by
  obtain ⟨semicolon, rest, rfl, hmark⟩ := hmore
  rcases place with ⟨previous, _ | ⟨first, tokens⟩⟩
  · exact ⟨semicolon, rfl, hmark⟩
  · cases h

/-- A test that no semicolon passes is not passed by what stands behind the end either. -/
theorem any_first?_followedBy (hmore : StartsWithSemicolon more) {test : Token → Bool}
    (htest : ∀ token, token.isPunctuator ";" = true → test token = false) :
    (place.followedBy more).first?.any test = place.first?.any test := by
  rcases hfirst : place.first? with _ | token
  · obtain ⟨semicolon, hsemicolon, hmark⟩ := first?_followedBy_of_none hmore hfirst
    rw [hsemicolon, Option.any_some, htest semicolon hmark]
    rfl
  · rw [first?_followedBy hfirst]

theorem isPunctuator_followedBy (hmore : StartsWithSemicolon more) {text : String}
    (htext : text ≠ ";") :
    (place.followedBy more).isPunctuator text = place.isPunctuator text := by
  apply any_first?_followedBy hmore
  intro token hmark
  obtain ⟨hkind, hvalue⟩ := kind_of_isPunctuator hmark
  rw [Token.isPunctuator, hkind, hvalue]
  simp [htext.symm]

theorem isName_followedBy (hmore : StartsWithSemicolon more) (name : String) :
    (place.followedBy more).isName name = place.isName name := by
  apply any_first?_followedBy hmore
  intro token hmark
  rw [Token.isName, (kind_of_isPunctuator hmark).1]
  rfl

theorem isAnyName_followedBy (hmore : StartsWithSemicolon more) :
    (place.followedBy more).isAnyName = place.isAnyName := by
  apply any_first?_followedBy hmore
  intro token hmark
  rw [Token.isAnyName, (kind_of_isPunctuator hmark).1]
  rfl

theorem exists_first?_of_any {test : Token → Bool} (h : place.first?.any test = true) :
    ∃ token, place.first? = some token ∧ test token = true := by
  rcases hfirst : place.first? with _ | token
  · rw [hfirst] at h
    cases h
  · rw [hfirst] at h
    exact ⟨token, rfl, h⟩

/-- Behind a token that was looked for, both places go on alike. -/
theorem next_followedBy_of_any {test : Token → Bool} (h : place.first?.any test = true) :
    (place.followedBy more).next = place.next.followedBy more := by
  obtain ⟨token, hfirst, -⟩ := exists_first?_of_any h
  exact next_followedBy hfirst

theorem rest_eq_nil_of_first? (h : place.first? = none) : place.rest = [] :=
  List.head?_eq_none_iff.1 h

end Peeking

section Passing

variable {place : Place} {more : List Token}

/-- Inside of brackets that the tokens close, a group ends among them. -/
theorem passGroupFrom_append {depth n : Nat} (hdepth : 0 < depth) (previous : Option Token)
    {tokens : List Token} (h : Closes (depth + n) tokens) (more : List Token) :
    passGroupFrom depth previous (tokens ++ more) =
      (passGroupFrom depth previous tokens).followedBy more := by
  induction tokens generalizing depth previous with
  | nil =>
    have hnone : depth + n = 0 := h
    omega
  | cons token rest ih =>
    rw [List.cons_append, passGroupFrom, passGroupFrom]
    by_cases hopener : token.isOpener = true
    · rw [if_pos hopener, if_pos hopener]
      rw [closes_opener hopener, Nat.add_right_comm] at h
      exact ih (Nat.succ_pos depth) _ h
    · rw [if_neg hopener, if_neg hopener]
      by_cases hcloser : token.isCloser = true
      · rw [if_pos hcloser, if_pos hcloser]
        obtain ⟨m, hm, hrest⟩ := (closes_closer hcloser).1 h
        by_cases hlast : depth ≤ 1
        · rw [if_pos hlast, if_pos hlast]
          rfl
        · rw [if_neg hlast, if_neg hlast]
          apply ih (by omega)
          rwa [show depth - 1 + n = m by omega]
      · rw [if_neg hcloser, if_neg hcloser]
        rw [Bool.not_eq_true] at hopener hcloser
        rw [closes_plain hopener hcloser] at h
        exact ih hdepth _ h

theorem passGroup_followedBy {token : Token} (hfirst : place.first? = some token)
    (hopener : token.isOpener = true) {n : Nat} (h : Closes n place.rest) :
    passGroup (place.followedBy more) = (passGroup place).followedBy more := by
  obtain ⟨previous, tokens⟩ := place
  obtain ⟨hrest, -⟩ := rest_of_first? hfirst
  dsimp only at hrest h
  rw [hrest, closes_opener hopener, Nat.add_comm] at h
  rw [hrest, passGroup, passGroup, Place.followedBy, List.cons_append, passGroupFrom,
    passGroupFrom, if_pos hopener, if_pos hopener]
  exact passGroupFrom_append Nat.one_pos _ h more

theorem typeArgumentsFrom_of_first? {token : Token} (h : place.first? = some token) (depth : Nat) :
    typeArgumentsFrom depth place =
      if opensStatement token then none
      else if token.isOpener then typeArgumentsFrom depth (passGroup place)
      else if token.isPunctuator "<" then typeArgumentsFrom (depth + 1) place.next
      else if closedAngles token ≠ 0 then
        if closedAngles token < depth then
          typeArgumentsFrom (depth - closedAngles token) place.next
        else if closedAngles token = depth then some place.next
        else none
      else if fitsTypeArguments token then typeArgumentsFrom depth place.next
      else none := by
  obtain ⟨previous, _ | ⟨first, rest⟩⟩ := place
  · cases h
  · cases h
    rw [typeArgumentsFrom]
    rfl

theorem typeArgumentsFrom_of_none (h : place.first? = none) (depth : Nat) :
    typeArgumentsFrom depth place = none := by
  obtain ⟨previous, _ | ⟨first, rest⟩⟩ := place
  · rw [typeArgumentsFrom]
    rfl
  · cases h

theorem passExpression_of_none (h : place.first? = none) (ends : Token → Bool) :
    passExpression ends place = place := by
  obtain ⟨previous, _ | ⟨first, rest⟩⟩ := place
  · rw [passExpression]
    rfl
  · cases h

theorem passExpression_of_first? {token : Token} (h : place.first? = some token)
    (ends : Token → Bool) :
    passExpression ends place =
      if ends token then place
      else if token.isOpener then passExpression ends (passGroup place)
      else if token.isPunctuator "<" then
        passExpression ends ((typeArguments? place).getD place.next)
      else passExpression ends place.next := by
  rw [passExpression]
  split
  · rename_i hnone
    cases h.symm.trans hnone
  · rename_i found hfound
    cases h.symm.trans hfound
    refine if_congr Iff.rfl rfl (if_congr Iff.rfl rfl (if_congr Iff.rfl ?_ rfl))
    split
    · rename_i after hargs
      rw [hargs]
      rfl
    · rename_i hargs
      rw [hargs]
      rfl

/-- Whether a token is nothing that passing looks for. -/
structure IsInert (token : Token) : Prop where
  opener : token.isOpener = false
  closer : token.isCloser = false
  statement : opensStatement token = false
  angle : token.isPunctuator "<" = false
  closes : closedAngles token = 0
  unfit : fitsTypeArguments token = false

theorem isInert_of_isPunctuator {token : Token} {mark : String} (hmark : mark = ";" ∨ mark = "=")
    (h : token.isPunctuator mark = true) : IsInert token := by
  obtain ⟨hkind, hvalue⟩ := kind_of_isPunctuator h
  rcases hmark with rfl | rfl <;> constructor <;>
    simp [Token.isOpener, Token.isCloser, opensStatement, Token.isAnyName, closedAngles,
      Token.isPunctuator, fitsTypeArguments, hkind, hvalue]

theorem typeArgumentsFrom_followedBy (hmore : StartsWithSemicolon more) {n : Nat} (depth : Nat)
    (h : Closes n place.rest) :
    typeArgumentsFrom depth (place.followedBy more) =
      (typeArgumentsFrom depth place).map (·.followedBy more) := by
  fun_induction typeArgumentsFrom depth place with
  | case1 depth place hf =>
    obtain ⟨semicolon, hfirst, hmark⟩ := first?_followedBy_of_none hmore hf
    have hinert := isInert_of_isPunctuator (.inl rfl) hmark
    rw [typeArgumentsFrom_of_first? hfirst]
    simp [hinert.statement, hinert.opener, hinert.angle, hinert.closes, hinert.unfit]
  | case2 depth place token hf hstatement =>
    rw [typeArgumentsFrom_of_first? (first?_followedBy hf), if_pos hstatement]
    rfl
  | case3 depth place token hf hstatement hopener ih =>
    have hgroup := (passes_passGroup hf hopener n).depth 0 h
    rw [typeArgumentsFrom_of_first? (first?_followedBy hf), if_neg hstatement, if_pos hopener,
      passGroup_followedBy hf hopener h]
    exact ih hgroup
  | case4 depth place token hf hstatement hopener hangle ih =>
    have hmark := isPunctuator_of_first? hf hangle
    have hnext := (passes_mark hmark (by decide)).depth 0 h
    rw [typeArgumentsFrom_of_first? (first?_followedBy hf), if_neg hstatement, if_neg hopener,
      if_pos hangle, next_followedBy hf]
    exact ih hnext
  | case5 depth place token hf hstatement hopener hangle hcloses hinside ih =>
    have hnext := (passes_plain hf (notBracket_of_closedAngles hcloses)).depth 0 h
    rw [typeArgumentsFrom_of_first? (first?_followedBy hf), if_neg hstatement, if_neg hopener,
      if_neg hangle, if_pos hcloses, if_pos hinside, next_followedBy hf]
    exact ih hnext
  | case6 place token hf hstatement hopener hangle hcloses hinside =>
    rw [typeArgumentsFrom_of_first? (first?_followedBy hf), if_neg hstatement, if_neg hopener,
      if_neg hangle, if_pos hcloses, if_neg hinside, if_pos rfl, next_followedBy hf]
    rfl
  | case7 depth place token hf hstatement hopener hangle hcloses hinside hlast =>
    rw [typeArgumentsFrom_of_first? (first?_followedBy hf), if_neg hstatement, if_neg hopener,
      if_neg hangle, if_pos hcloses, if_neg hinside, if_neg hlast]
    rfl
  | case8 depth place token hf hstatement hopener hangle hcloses hfits ih =>
    have hnext := (passes_plain hf (notBracket_of_fitsTypeArguments hfits)).depth 0 h
    rw [typeArgumentsFrom_of_first? (first?_followedBy hf), if_neg hstatement, if_neg hopener,
      if_neg hangle, if_neg hcloses, if_pos hfits, next_followedBy hf]
    exact ih hnext
  | case9 depth place token hf hstatement hopener hangle hcloses hfits =>
    rw [typeArgumentsFrom_of_first? (first?_followedBy hf), if_neg hstatement, if_neg hopener,
      if_neg hangle, if_neg hcloses, if_neg hfits]
    rfl

theorem typeArguments?_followedBy (hmore : StartsWithSemicolon more) {n : Nat}
    (h : Closes n place.rest) :
    typeArguments? (place.followedBy more) = (typeArguments? place).map (·.followedBy more) := by
  have hprevious : (place.followedBy more).previous = place.previous := rfl
  rw [typeArguments?, typeArguments?, hprevious]
  split
  · exact typeArgumentsFrom_followedBy hmore 0 h
  · rfl

/-- An expression ends at the semicolon, or at a closer before it. -/
theorem passExpression_followedBy (hmore : StartsWithSemicolon more) {ends : Token → Bool}
    {n : Nat} (hcloser : ∀ token, token.isCloser = true → ends token = true)
    (hsemicolon : n = 0 → ∀ token, token.isPunctuator ";" = true → ends token = true)
    (h : Closes n place.rest) :
    passExpression ends (place.followedBy more) = (passExpression ends place).followedBy more := by
  fun_induction passExpression ends place with
  | case1 place hf =>
    obtain ⟨semicolon, hfirst, hmark⟩ := first?_followedBy_of_none hmore hf
    rw [rest_eq_nil_of_first? hf] at h
    rw [passExpression_of_first? hfirst, if_pos (hsemicolon h semicolon hmark)]
  | case2 place token hf hend =>
    rw [passExpression_of_first? (first?_followedBy hf), if_pos hend]
  | case3 place token hf hend hopener ih =>
    have hgroup := (passes_passGroup hf hopener n).depth 0 h
    rw [passExpression_of_first? (first?_followedBy hf), if_neg hend, if_pos hopener,
      passGroup_followedBy hf hopener h]
    exact ih hgroup
  | case4 place token hf hend hopener hangle after hargs ih =>
    have hafter := (passes_typeArguments? hargs n).depth 0 h
    rw [passExpression_of_first? (first?_followedBy hf), if_neg hend, if_neg hopener,
      if_pos hangle, typeArguments?_followedBy hmore h, hargs]
    exact ih hafter
  | case5 place token hf hend hopener hangle hargs ih =>
    have hnext := (passes_mark (isPunctuator_of_first? hf hangle) (by decide)).depth 0 h
    rw [passExpression_of_first? (first?_followedBy hf), if_neg hend, if_neg hopener,
      if_pos hangle, typeArguments?_followedBy hmore h, hargs, next_followedBy hf]
    exact ih hnext
  | case6 place token hf hend hopener hangle ih =>
    have hplain : token.isOpener = false ∧ token.isCloser = false := by
      rw [Bool.not_eq_true] at hopener
      refine ⟨hopener, Bool.eq_false_iff.2 ?_⟩
      intro hclose
      exact hend (hcloser token hclose)
    have hnext := (passes_plain hf hplain).depth 0 h
    rw [passExpression_of_first? (first?_followedBy hf), if_neg hend, if_neg hopener,
      if_neg hangle, next_followedBy hf]
    exact ih hnext

theorem passDefault_followedBy (hmore : StartsWithSemicolon more) {n : Nat} (hn : 0 < n)
    (h : Closes n place.rest) :
    passDefault (place.followedBy more) = (passDefault place).followedBy more := by
  refine passExpression_followedBy hmore ?_ ?_ h
  · intro token hcloser
    rw [endsDefault, hcloser, Bool.or_true]
  · intro hzero
    omega

theorem passInitializer_followedBy (hmore : StartsWithSemicolon more) {n : Nat}
    (h : Closes n place.rest) :
    passInitializer (place.followedBy more) = (passInitializer place).followedBy more := by
  refine passExpression_followedBy hmore ?_ ?_ h
  · intro token hcloser
    rw [endsInitializer, endsDefault, hcloser, Bool.or_true, Bool.or_true]
  · intro _ token hmark
    rw [endsInitializer, hmark, Bool.or_true, Bool.true_or]

end Passing

/-- Where a type annotation is passed to that starts at a place with `angles` open angle brackets,
and how many of them are open there. -/
def annotatedTypeEnd (angles : Nat) (place : Place) : Nat × Place :=
  match _hf : place.first? with
  | none => (angles, place)
  | some token =>
    if angles = 0 && opensStatement token then (angles, place)
    else if token.isOpener then annotatedTypeEnd angles (passGroup place)
    else if token.isPunctuator "<" then annotatedTypeEnd (angles + 1) place.next
    else if closedAngles token ≠ 0 then annotatedTypeEnd (angles - closedAngles token) place.next
    else if angles = 0 &&
        (token.isPunctuator "=" || token.isPunctuator "," || token.isPunctuator ";") then
      (angles, place)
    else if token.isCloser then (angles, place)
    else annotatedTypeEnd angles place.next
termination_by place.remaining
decreasing_by
  · exact remaining_passGroup_lt _hf
  all_goals exact Place.remaining_next_lt _hf

section Annotations

variable {place : Place} {more : List Token}

theorem passAnnotatedType_of_none (h : place.first? = none) (angles : Nat) :
    passAnnotatedType angles place = place := by
  obtain ⟨previous, _ | ⟨first, rest⟩⟩ := place
  · exact passAnnotatedType_nil angles previous
  · cases h

theorem passAnnotatedType_of_first? {token : Token} (h : place.first? = some token)
    (angles : Nat) :
    passAnnotatedType angles place =
      if angles = 0 && opensStatement token then place
      else if token.isOpener then passAnnotatedType angles (passGroup place)
      else if token.isPunctuator "<" then passAnnotatedType (angles + 1) place.next
      else if closedAngles token ≠ 0 then
        passAnnotatedType (angles - closedAngles token) place.next
      else if angles = 0 &&
          (token.isPunctuator "=" || token.isPunctuator "," || token.isPunctuator ";") then place
      else if token.isCloser then place
      else passAnnotatedType angles place.next := by
  obtain ⟨previous, _ | ⟨first, rest⟩⟩ := place
  · cases h
  · cases h
    rw [passAnnotatedType_cons]
    rfl

/-- An annotation is passed to where it ends, whatever is open there. -/
theorem passAnnotatedType_eq (angles : Nat) (place : Place) :
    passAnnotatedType angles place = (annotatedTypeEnd angles place).2 := by
  fun_induction annotatedTypeEnd angles place with
  | case1 angles place hf => exact passAnnotatedType_of_none hf angles
  | case2 angles place token hf hstatement =>
    rw [passAnnotatedType_of_first? hf, if_pos hstatement]
  | case3 angles place token hf hstatement hopener ih =>
    rw [passAnnotatedType_of_first? hf, if_neg hstatement, if_pos hopener, ih]
  | case4 angles place token hf hstatement hopener hangle ih =>
    rw [passAnnotatedType_of_first? hf, if_neg hstatement, if_neg hopener, if_pos hangle, ih]
  | case5 angles place token hf hstatement hopener hangle hcloses ih =>
    rw [passAnnotatedType_of_first? hf, if_neg hstatement, if_neg hopener, if_neg hangle,
      if_pos hcloses, ih]
  | case6 angles place token hf hstatement hopener hangle hcloses hend =>
    rw [passAnnotatedType_of_first? hf, if_neg hstatement, if_neg hopener, if_neg hangle,
      if_neg hcloses, if_pos hend]
  | case7 angles place token hf hstatement hopener hangle hcloses hend hcloser =>
    rw [passAnnotatedType_of_first? hf, if_neg hstatement, if_neg hopener, if_neg hangle,
      if_neg hcloses, if_neg hend, if_pos hcloser]
  | case8 angles place token hf hstatement hopener hangle hcloses hend hcloser ih =>
    rw [passAnnotatedType_of_first? hf, if_neg hstatement, if_neg hopener, if_neg hangle,
      if_neg hcloses, if_neg hend, if_neg hcloser, ih]

/-- Whether the annotation that starts at a place has an angle bracket open at the end of the
tokens. -/
def LeavesAngleOpen (place : Place) : Prop :=
  (annotatedTypeEnd 0 place).2.rest = [] ∧ 0 < (annotatedTypeEnd 0 place).1

/-- An annotation ends at the semicolon, unless an angle bracket is open there. -/
theorem passAnnotatedType_followedBy (hmore : StartsWithSemicolon more) {angles n : Nat}
    (h : Closes n place.rest)
    (hclosed : (annotatedTypeEnd angles place).2.rest = [] →
      (annotatedTypeEnd angles place).1 = 0) :
    passAnnotatedType angles (place.followedBy more) =
      (passAnnotatedType angles place).followedBy more := by
  rw [passAnnotatedType_eq angles place]
  fun_induction annotatedTypeEnd angles place with
  | case1 angles place hf =>
    obtain ⟨semicolon, hfirst, hmark⟩ := first?_followedBy_of_none hmore hf
    have hinert := isInert_of_isPunctuator (.inl rfl) hmark
    have hzero : angles = 0 := hclosed (rest_eq_nil_of_first? hf)
    rw [passAnnotatedType_of_first? hfirst]
    simp [hinert.statement, hinert.opener, hinert.angle, hinert.closes, hmark, hzero]
  | case2 angles place token hf hstatement =>
    rw [passAnnotatedType_of_first? (first?_followedBy hf), if_pos hstatement]
  | case3 angles place token hf hstatement hopener ih =>
    have hgroup := (passes_passGroup hf hopener n).depth 0 h
    rw [passAnnotatedType_of_first? (first?_followedBy hf), if_neg hstatement, if_pos hopener,
      passGroup_followedBy hf hopener h]
    exact ih hgroup hclosed
  | case4 angles place token hf hstatement hopener hangle ih =>
    have hnext := (passes_mark (isPunctuator_of_first? hf hangle) (by decide)).depth 0 h
    rw [passAnnotatedType_of_first? (first?_followedBy hf), if_neg hstatement, if_neg hopener,
      if_pos hangle, next_followedBy hf]
    exact ih hnext hclosed
  | case5 angles place token hf hstatement hopener hangle hcloses ih =>
    have hnext := (passes_plain hf (notBracket_of_closedAngles hcloses)).depth 0 h
    rw [passAnnotatedType_of_first? (first?_followedBy hf), if_neg hstatement, if_neg hopener,
      if_neg hangle, if_pos hcloses, next_followedBy hf]
    exact ih hnext hclosed
  | case6 angles place token hf hstatement hopener hangle hcloses hend =>
    rw [passAnnotatedType_of_first? (first?_followedBy hf), if_neg hstatement, if_neg hopener,
      if_neg hangle, if_neg hcloses, if_pos hend]
  | case7 angles place token hf hstatement hopener hangle hcloses hend hcloser =>
    rw [passAnnotatedType_of_first? (first?_followedBy hf), if_neg hstatement, if_neg hopener,
      if_neg hangle, if_neg hcloses, if_neg hend, if_pos hcloser]
  | case8 angles place token hf hstatement hopener hangle hcloses hend hcloser ih =>
    have hplain : token.isOpener = false ∧ token.isCloser = false :=
      ⟨Bool.eq_false_iff.2 hopener, Bool.eq_false_iff.2 hcloser⟩
    have hnext := (passes_plain hf hplain).depth 0 h
    rw [passAnnotatedType_of_first? (first?_followedBy hf), if_neg hstatement, if_neg hopener,
      if_neg hangle, if_neg hcloses, if_neg hend, if_neg hcloser, next_followedBy hf]
    exact ih hnext hclosed

end Annotations

end RouteTable.Exports
