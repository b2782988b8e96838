import RouteTable.Proofs.Exports.Lookahead

/-!
Passing what stands beside the names of a declaration: defaults, type annotations and initializers.
Each is a sequence of balanced tokens in which no token outside of the brackets stops the passing,
and it is passed up to the first token behind it.
-/

namespace RouteTable.Exports

open Script

/-- Balanced tokens of which none outside of the brackets is a stop. -/
inductive Clear (stops : Token → Bool) : List Token → Prop where
  | nil : Clear stops []
  | plain {token : Token} {rest : List Token} (hopener : token.isOpener = false)
      (hcloser : token.isCloser = false) (hclear : stops token = false) (h : Clear stops rest) :
      Clear stops (token :: rest)
  | group {opener closer : Token} {inner rest : List Token} (hopener : opener.isOpener = true)
      (hinner : Balanced inner) (hcloser : closer.isCloser = true) (h : Clear stops rest) :
      Clear stops (opener :: inner ++ closer :: rest)

/-- What no default has outside of its brackets. -/
def stopsDefault (token : Token) : Bool :=
  token.isPunctuator "," || token.isPunctuator "<"

/-- What no initializer has outside of its brackets. -/
def stopsInitializer (token : Token) : Bool :=
  stopsDefault token || token.isPunctuator ";" || opensStatement token

/-- What no type annotation has outside of its brackets. -/
def stopsType (token : Token) : Bool :=
  stopsInitializer token || token.isPunctuator "="

/-- Tokens of which the first is one of some punctuators. -/
def StartsWith (texts : List String) (tokens : List Token) : Prop :=
  ∃ token rest, tokens = token :: rest ∧ token.kind = .punctuator ∧ token.value ∈ texts

section StartsWith

variable {texts : List String} {tokens : List Token} {token : Token}

theorem startsWith_cons {text : String} (h : token.isPunctuator text = true) (hmem : text ∈ texts)
    (rest : List Token) : StartsWith texts (token :: rest) := by
  obtain ⟨hkind, rfl⟩ := kind_of_isPunctuator h
  exact ⟨token, rest, rfl, hkind, hmem⟩

theorem StartsWith.mono {more : List String} (h : StartsWith texts tokens) (hsub : texts ⊆ more) :
    StartsWith more tokens := by
  obtain ⟨token, rest, rfl, hkind, hmem⟩ := h
  exact ⟨token, rest, rfl, hkind, hsub hmem⟩

/-- What starts with some punctuators is at no other. -/
theorem StartsWith.isPunctuator_eq_false (h : StartsWith texts tokens) (text : String)
    (hnot : text ∉ texts) (previous : Option Token) :
    Place.isPunctuator ⟨previous, tokens⟩ text = false := by
  obtain ⟨token, rest, rfl, hkind, hmem⟩ := h
  have hne : token.value ≠ text := by
    intro heq
    exact hnot (heq ▸ hmem)
  simp [Place.isPunctuator, Place.first?, Token.isPunctuator, hkind, hne]

end StartsWith

section Passing

variable {ends stops : Token → Bool} {tokens rest : List Token}

/-- An expression ends at a token only if that closes a bracket or is a stop, and angle brackets are
stops as well. -/
structure EndsAtStops (ends stops : Token → Bool) : Prop where
  stop : ∀ token, ends token = true → token.isCloser = true ∨ stops token = true
  opener : ∀ token, token.isOpener = true → ends token = false
  angle : ∀ token, token.isPunctuator "<" = true → stops token = true

theorem isOpener_eq_false_of_value {token : Token} (h : token.value ∉ ["(", "[", "\x7b"]) :
    token.isOpener = false := by
  simp only [List.mem_cons, List.not_mem_nil, or_false, not_or] at h
  simp [Token.isOpener, h.1, h.2.1, h.2.2]

theorem not_isPunctuator_of_isOpener {token : Token} (h : token.isOpener = true) (text : String)
    (htext : text ∉ ["(", "[", "\x7b"]) : token.isPunctuator text = false := by
  by_contra hmark
  rw [Bool.not_eq_false] at hmark
  obtain ⟨-, hvalue⟩ := kind_of_isPunctuator hmark
  rw [isOpener_eq_false_of_value (hvalue ▸ htext)] at h
  cases h

theorem endsAtStops_default : EndsAtStops endsDefault stopsDefault where
  stop := by
    intro token h
    simp only [endsDefault, Bool.or_eq_true] at h
    rcases h with hcomma | hcloser
    · exact Or.inr (by simp [stopsDefault, hcomma])
    · exact Or.inl hcloser
  opener := by
    intro token h
    have hcomma := not_isPunctuator_of_isOpener h "," (by decide)
    simp [endsDefault, hcomma, isCloser_of_isOpener h]
  angle := by
    intro token h
    simp [stopsDefault, h]

theorem endsAtStops_initializer : EndsAtStops endsInitializer stopsInitializer where
  stop := by
    intro token h
    simp only [endsInitializer, Bool.or_eq_true] at h
    rcases h with (hstatement | hsemicolon) | hdefault
    · exact Or.inr (by simp [stopsInitializer, hstatement])
    · exact Or.inr (by simp [stopsInitializer, hsemicolon])
    · exact (endsAtStops_default.stop token hdefault).imp_right fun h => by
        simp [stopsInitializer, h]
  opener := by
    intro token h
    have hsemicolon := not_isPunctuator_of_isOpener h ";" (by decide)
    simp [endsInitializer, hsemicolon, opensStatement_of_isOpener h, endsAtStops_default.opener _ h]
  angle := by
    intro token h
    simp [stopsInitializer, stopsDefault, h]

/-- What is clear of stops is passed as part of an expression. -/
theorem passExpression_clear (hstops : EndsAtStops ends stops) (h : Clear stops tokens)
    (previous : Option Token) :
    passExpression ends ⟨previous, tokens ++ rest⟩ =
      passExpression ends ⟨lastOf previous tokens, rest⟩ := by
  induction h generalizing previous with
  | nil => rfl
  | @plain token tail hopener hcloser hclear h ih =>
    have hends : ¬ ends token = true := by
      intro hends
      rcases hstops.stop token hends with hbad | hbad
      · rw [hcloser] at hbad
        cases hbad
      · rw [hclear] at hbad
        cases hbad
    have hangle : ¬ token.isPunctuator "<" = true := by
      intro hangle
      rw [hstops.angle token hangle] at hclear
      cases hclear
    rw [List.cons_append, passExpression_of_first? rfl, if_neg hends, if_neg (by simp [hopener]),
      if_neg hangle, lastOf_cons]
    exact ih (some token)
  | @group opener closer inner tail hopener hinner hcloser h ih =>
    have hgroup := passGroup_balanced hopener hinner hcloser previous (tail ++ rest)
    simp only [List.cons_append, List.append_assoc] at hgroup ⊢
    rw [passExpression_of_first? rfl, if_neg (by simp [hstops.opener opener hopener]),
      if_pos hopener, hgroup, ih]
    simp only [lastOf_cons, lastOf_append]

/-- An expression is passed up to the token that ends it. -/
theorem passExpression_stop {token : Token} (hends : ends token = true)
    (previous : Option Token) :
    passExpression ends ⟨previous, token :: rest⟩ = ⟨previous, token :: rest⟩ := by
  rw [passExpression_of_first? rfl, if_pos hends]

/-- What is clear of stops is passed as part of a type annotation. -/
theorem passAnnotatedType_clear (h : Clear stopsType tokens) (previous : Option Token) :
    passAnnotatedType 0 ⟨previous, tokens ++ rest⟩ =
      passAnnotatedType 0 ⟨lastOf previous tokens, rest⟩ := by
  induction h generalizing previous with
  | nil => rfl
  | @plain token tail hopener hcloser hclear h ih =>
    simp only [stopsType, stopsInitializer, stopsDefault, Bool.or_eq_false_iff] at hclear
    obtain ⟨⟨⟨⟨hcomma, hangle⟩, hsemicolon⟩, hstatement⟩, hassign⟩ := hclear
    have hmark : ¬ (0 = 0 && (token.isPunctuator "=" || token.isPunctuator "," ||
        token.isPunctuator ";")) = true := by
      simp [hassign, hcomma, hsemicolon]
    have hinside : ¬ token.isCloser = true := by simp [hcloser]
    -- A closing angle bracket with none open is passed like any other token.
    rw [List.cons_append, passAnnotatedType_cons, if_neg (by simp [hstatement]),
      if_neg (by simp [hopener]), if_neg (by simp [hangle]), if_neg hmark, if_neg hinside,
      Nat.zero_sub, ite_self, lastOf_cons]
    exact ih (some token)
  | @group opener closer inner tail hopener hinner hcloser h ih =>
    have hgroup := passGroup_balanced hopener hinner hcloser previous (tail ++ rest)
    simp only [List.cons_append, List.append_assoc] at hgroup ⊢
    rw [passAnnotatedType_cons, if_neg (by simp [opensStatement_of_isOpener hopener]),
      if_pos hopener, hgroup, ih]
    simp only [lastOf_cons, lastOf_append]

end Passing

/-- A part that may be missing: a mark, with what it introduces behind it. -/
inductive Optionally (mark : String) (follows : List Token → Prop) : List Token → Prop where
  | absent : Optionally mark follows []
  | present {token : Token} {rest : List Token} (hmark : token.isPunctuator mark = true)
      (h : follows rest) : Optionally mark follows (token :: rest)

/-- In front of some punctuators, an optional part starts with its mark or one of these. -/
theorem Optionally.startsWith {mark : String} {follows : List Token → Prop}
    {tokens rest : List Token} (h : Optionally mark follows tokens) {texts : List String}
    (hrest : StartsWith texts rest) : StartsWith (mark :: texts) (tokens ++ rest) := by
  cases h with
  | absent => exact hrest.mono (List.subset_cons_self mark texts)
  | present hmark h => exact startsWith_cons hmark List.mem_cons_self _

/-- An optional part is passed if what it introduces is. -/
theorem pass_optionally {mark : String} {follows : List Token → Prop} {texts : List String}
    {tokens rest : List Token} (h : Optionally mark follows tokens) (pass : Place → Place)
    (hpass : ∀ value, follows value → ∀ previous,
      pass ⟨previous, value ++ rest⟩ = ⟨lastOf previous value, rest⟩)
    (hrest : StartsWith texts rest) (hmark : mark ∉ texts) (previous : Option Token) :
    (if Place.isPunctuator ⟨previous, tokens ++ rest⟩ mark then
        pass (Place.next ⟨previous, tokens ++ rest⟩)
      else ⟨previous, tokens ++ rest⟩) = ⟨lastOf previous tokens, rest⟩ := by
  cases h with
  | absent =>
    have hout := hrest.isPunctuator_eq_false mark hmark previous
    rw [List.nil_append, hout, if_neg Bool.false_ne_true, lastOf_nil]
  | @present token value htoken h =>
    have hat : Place.isPunctuator ⟨previous, token :: value ++ rest⟩ mark = true := htoken
    rw [if_pos hat, lastOf_cons]
    exact hpass value h (some token)

/-- A default of a pattern's element, if there is one. -/
abbrev Default : List Token → Prop :=
  Optionally "=" (Clear stopsDefault)

section Parts

variable {tokens rest asserted annotated initialized : List Token}

theorem passDefault_append (h : Clear stopsDefault tokens)
    (hrest : StartsWith [",", "\x7d", "]"] rest) (previous : Option Token) :
    passDefault ⟨previous, tokens ++ rest⟩ = ⟨lastOf previous tokens, rest⟩ := by
  obtain ⟨token, behind, rfl, hkind, hmem⟩ := hrest
  have hends : endsDefault token = true := by
    simp only [List.mem_cons, List.not_mem_nil, or_false] at hmem
    rcases hmem with hvalue | hvalue | hvalue <;>
    · simp [endsDefault, Token.isPunctuator, Token.isCloser, hkind, hvalue]
  rw [passDefault, passExpression_clear endsAtStops_default h, passExpression_stop hends]

theorem passInitializer_append (h : Clear stopsInitializer tokens)
    (hrest : StartsWith [",", ";"] rest) (previous : Option Token) :
    passInitializer ⟨previous, tokens ++ rest⟩ = ⟨lastOf previous tokens, rest⟩ := by
  obtain ⟨token, behind, rfl, hkind, hmem⟩ := hrest
  have hends : endsInitializer token = true := by
    simp only [List.mem_cons, List.not_mem_nil, or_false] at hmem
    rcases hmem with hvalue | hvalue <;>
    · simp [endsInitializer, endsDefault, Token.isPunctuator, hkind, hvalue]
  rw [passInitializer, passExpression_clear endsAtStops_initializer h, passExpression_stop hends]

/-- With no angle bracket open, a type annotation ends at an initializer, a comma or a semicolon. -/
theorem passAnnotatedType_append (h : Clear stopsType tokens)
    (hrest : StartsWith ["=", ",", ";"] rest) (previous : Option Token) :
    passAnnotatedType 0 ⟨previous, tokens ++ rest⟩ = ⟨lastOf previous tokens, rest⟩ := by
  obtain ⟨token, behind, rfl, hkind, hmem⟩ := hrest
  have hstatement := opensStatement_of_punctuator hkind
  simp only [List.mem_cons, List.not_mem_nil, or_false] at hmem
  rw [passAnnotatedType_clear h, passAnnotatedType_cons]
  rcases hmem with hvalue | hvalue | hvalue <;>
  · simp [hstatement, Token.isOpener, closedAngles, Token.isPunctuator, hkind, hvalue]

theorem passOptionalDefault_append (h : Default tokens)
    (hrest : StartsWith [",", "\x7d", "]"] rest) (previous : Option Token) :
    passOptionalDefault ⟨previous, tokens ++ rest⟩ = ⟨lastOf previous tokens, rest⟩ := by
  rw [passOptionalDefault]
  apply pass_optionally h passDefault _ hrest (by decide)
  intro value hvalue previous
  exact passDefault_append hvalue hrest previous

/-- What may stand between a pattern and an initializer is passed. -/
theorem passOptionalType_append (hasserted : Optionally "!" (· = []) asserted)
    (hannotated : Optionally ":" (Clear stopsType) annotated)
    (hrest : StartsWith ["=", ",", ";"] rest) (previous : Option Token) :
    passOptionalType ⟨previous, asserted ++ (annotated ++ rest)⟩ =
      ⟨lastOf previous (asserted ++ annotated), rest⟩ := by
  have htype := hannotated.startsWith hrest
  have hmark := pass_optionally hasserted id (by rintro _ rfl previous; rfl) htype (by decide)
    previous
  have hannotation := pass_optionally hannotated (passAnnotatedType 0)
    (fun value h previous => passAnnotatedType_append h hrest previous) hrest (by decide)
  simp only [id] at hmark
  simp only [passOptionalType, hmark, hannotation, lastOf_append]

/-- What may follow a pattern in a declarator is passed up to the comma or the semicolon. -/
theorem passDeclaratorTail_append (hasserted : Optionally "!" (· = []) asserted)
    (hannotated : Optionally ":" (Clear stopsType) annotated)
    (hinitialized : Optionally "=" (Clear stopsInitializer) initialized)
    (hrest : StartsWith [",", ";"] rest) (previous : Option Token) :
    passDeclaratorTail ⟨previous, asserted ++ (annotated ++ (initialized ++ rest))⟩ =
      ⟨lastOf previous (asserted ++ (annotated ++ initialized)), rest⟩ := by
  have hinitializer := pass_optionally hinitialized passInitializer
    (fun value h previous => passInitializer_append h hrest previous) hrest (by decide)
  rw [passDeclaratorTail_eq,
    passOptionalType_append hasserted hannotated (hinitialized.startsWith hrest), hinitializer,
    ← lastOf_append, List.append_assoc]

end Parts

end RouteTable.Exports
