import RouteTable.Proofs.Exports.Annotation

/-!
Passing tokens and the brackets among them. The tokens to come close the brackets that are open, one
after another, and each that they open. Groups, type arguments, expressions and type annotations are
passed without any change in how many brackets the tokens to come have to close.
-/

namespace RouteTable.Exports

open Script

/-- Tokens that close so many open brackets, each bracket that they open, and no more. -/
def Closes : Nat → List Token → Prop
  | n, [] => n = 0
  | n, token :: rest => (token.isCloser = true → 0 < n) ∧ Closes (depthAfter n token) rest

theorem isCloser_of_isOpener {token : Token} (h : token.isOpener = true) :
    token.isCloser = false := by
  rw [Bool.eq_false_iff]
  intro hcloser
  cases h.symm.trans (isOpener_of_isCloser hcloser)

theorem depthAfter_opener {token : Token} (h : token.isOpener = true) (n : Nat) :
    depthAfter n token = n + 1 :=
  if_pos h

theorem depthAfter_closer {token : Token} (h : token.isCloser = true) (n : Nat) :
    depthAfter n token = n - 1 := by
  rw [depthAfter, if_neg (by simp [isOpener_of_isCloser h]), if_pos h]

theorem depthAfter_plain {token : Token} (hopener : token.isOpener = false)
    (hcloser : token.isCloser = false) (n : Nat) : depthAfter n token = n := by
  rw [depthAfter, if_neg (by simp [hopener]), if_neg (by simp [hcloser])]

theorem closes_opener {token : Token} (h : token.isOpener = true) {n : Nat} {rest : List Token} :
    Closes n (token :: rest) ↔ Closes (n + 1) rest := by
  rw [Closes, depthAfter_opener h, isCloser_of_isOpener h]
  simp

theorem closes_closer {token : Token} (h : token.isCloser = true) {n : Nat} {rest : List Token} :
    Closes n (token :: rest) ↔ ∃ m, n = m + 1 ∧ Closes m rest := by
  rw [Closes, depthAfter_closer h]
  cases n with
  | zero => simp [h]
  | succ m => simp

theorem closes_plain {token : Token} (hopener : token.isOpener = false)
    (hcloser : token.isCloser = false) {n : Nat} {rest : List Token} :
    Closes n (token :: rest) ↔ Closes n rest := by
  rw [Closes, depthAfter_plain hopener hcloser, hcloser]
  simp

/-- Balanced tokens in front leave it to those behind to close what is open. -/
theorem closes_append_of_balanced {tokens : List Token} (h : Balanced tokens) {n : Nat}
    {rest : List Token} : Closes n (tokens ++ rest) ↔ Closes n rest := by
  induction h generalizing n rest with
  | nil => rfl
  | plain hopener hcloser h ih => rw [List.cons_append, closes_plain hopener hcloser, ih]
  | group hopener hinner hcloser h ihInner ih =>
    rw [List.append_assoc, List.cons_append, closes_opener hopener, ihInner, List.cons_append,
      closes_closer hcloser]
    simp [ih]

theorem closes_of_balanced {tokens : List Token} (h : Balanced tokens) : Closes 0 tokens := by
  rw [← List.append_nil tokens, closes_append_of_balanced h]
  rfl

/-- The tokens close as many brackets as they open and as are open before them. -/
theorem countP_of_closes {n : Nat} {tokens : List Token} (h : Closes n tokens) :
    tokens.countP Token.isOpener + n = tokens.countP Token.isCloser := by
  induction tokens generalizing n with
  | nil =>
    cases h
    rfl
  | cons token rest ih =>
    have hrest := ih h.2
    by_cases hopener : token.isOpener = true
    · have hcloser := isCloser_of_isOpener hopener
      rw [depthAfter_opener hopener] at hrest
      rw [List.countP_cons_of_pos hopener, List.countP_cons_of_neg (by simp [hcloser])]
      omega
    · by_cases hcloser : token.isCloser = true
      · have hpos := h.1 hcloser
        rw [depthAfter_closer hcloser] at hrest
        rw [List.countP_cons_of_neg hopener, List.countP_cons_of_pos hcloser]
        omega
      · rw [Bool.not_eq_true] at hopener hcloser
        rw [depthAfter_plain hopener hcloser] at hrest
        rw [List.countP_cons_of_neg (by simp [hopener])]
        rw [List.countP_cons_of_neg (by simp [hcloser])]
        exact hrest

def brackets : List String := ["(", "[", "\x7b", ")", "]", "\x7d"]

/-- A punctuator is a bracket only if it is spelled as one. -/
theorem notBracket_of_value {token : Token} (h : token.value ∉ brackets) :
    token.isOpener = false ∧ token.isCloser = false := by
  simp only [brackets, List.mem_cons, List.not_mem_nil, or_false, not_or] at h
  simp [Token.isOpener, Token.isCloser, h]

theorem notBracket_of_kind {token : Token} (h : token.kind ≠ .punctuator) :
    token.isOpener = false ∧ token.isCloser = false := by
  simp [Token.isOpener, Token.isCloser, h]

theorem notBracket_of_closedAngles {token : Token} (h : closedAngles token ≠ 0) :
    token.isOpener = false ∧ token.isCloser = false := by
  apply notBracket_of_value
  obtain ⟨-, hvalue | hvalue | hvalue⟩ := closedAngles_ne_zero h
  all_goals
    rw [hvalue]
    decide

theorem notBracket_of_fitsTypeArguments {token : Token} (h : fitsTypeArguments token = true) :
    token.isOpener = false ∧ token.isCloser = false := by
  by_cases hkind : token.kind = .punctuator
  · have hapart : ∀ text ∈ [",", ".", "?.", "|", "&", "?", ":", "=>", "...", "-"],
        text ∉ brackets := by
      decide
    simp only [fitsTypeArguments, hkind, List.contains_eq_mem, decide_eq_true_eq] at h
    exact notBracket_of_value (hapart _ h)
  · exact notBracket_of_kind hkind

/-- A later place. Where so many more brackets are to be closed from the place on, and the rest of
them is left to what stands behind both, so many more are to be closed from the later place on. -/
structure Passes (place later : Place) (before after : Nat) : Prop where
  tokens : ∃ passed, place.rest = passed ++ later.rest ∧
    later.previous = lastOf place.previous passed
  depth : ∀ n, Closes (before + n) place.rest → Closes (after + n) later.rest

namespace Passes

variable {place middle later : Place} {before between after : Nat}

theorem refl (place : Place) (before : Nat) : Passes place place before before where
  tokens := ⟨[], rfl, rfl⟩
  depth := fun _ h => h

theorem trans (h : Passes place middle before between) (h' : Passes middle later between after) :
    Passes place later before after where
  tokens := by
    obtain ⟨first, hfirst, hprevious⟩ := h.tokens
    obtain ⟨second, hsecond, hprevious'⟩ := h'.tokens
    refine ⟨first ++ second, ?_, ?_⟩
    · rw [hfirst, hsecond, List.append_assoc]
    · rw [hprevious', hprevious, lastOf_append]
  depth := fun n hn => h'.depth n (h.depth n hn)

/-- What is to come at the later place is among what was to come before. -/
theorem subset {tokens : List Token} (h : Passes place later before after)
    (hmem : place.rest ⊆ tokens) : later.rest ⊆ tokens := by
  obtain ⟨passed, hrest, -⟩ := h.tokens
  rw [hrest] at hmem
  exact fun token htoken => hmem (List.mem_append_right passed htoken)

theorem remaining_le (h : Passes place later before after) :
    later.remaining ≤ place.remaining := by
  obtain ⟨passed, hrest, -⟩ := h.tokens
  rw [Place.remaining, Place.remaining, hrest, List.length_append]
  exact Nat.le_add_left _ _

/-- The same inside more open brackets. -/
theorem within (h : Passes place later 0 0) (before : Nat) :
    Passes place later before before where
  tokens := h.tokens
  depth := by
    intro n hn
    have hlater := h.depth (before + n)
    rw [Nat.zero_add] at hlater
    exact hlater hn

end Passes

section Next

variable {place : Place} {token : Token} {before : Nat}

theorem rest_of_first? (h : place.first? = some token) :
    place.rest = token :: place.next.rest ∧ place.next.previous = some token := by
  rcases place with ⟨previous, _ | ⟨first, rest⟩⟩
  · cases h
  · cases h
    exact ⟨rfl, rfl⟩

theorem tokens_next (h : place.first? = some token) : ∃ passed,
    place.rest = passed ++ place.next.rest ∧ place.next.previous = lastOf place.previous passed :=
  ⟨[token], (rest_of_first? h).1, (rest_of_first? h).2⟩

theorem passes_plain (h : place.first? = some token)
    (hplain : token.isOpener = false ∧ token.isCloser = false) :
    Passes place place.next before before where
  tokens := tokens_next h
  depth := by
    intro n hn
    rwa [(rest_of_first? h).1, closes_plain hplain.1 hplain.2] at hn

theorem passes_opener (h : place.first? = some token) (hopener : token.isOpener = true) :
    Passes place place.next before (before + 1) where
  tokens := tokens_next h
  depth := by
    intro n hn
    rw [(rest_of_first? h).1, closes_opener hopener] at hn
    rwa [Nat.add_right_comm]

theorem passes_closer (h : place.first? = some token) (hcloser : token.isCloser = true) :
    Passes place place.next (before + 1) before where
  tokens := tokens_next h
  depth := by
    intro n hn
    rw [(rest_of_first? h).1, closes_closer hcloser] at hn
    obtain ⟨m, hm, hrest⟩ := hn
    rwa [show before + n = m by omega]

theorem exists_first?_of_isPunctuator {text : String} (h : place.isPunctuator text = true) :
    ∃ token, place.first? = some token ∧ token.kind = .punctuator ∧ token.value = text := by
  rcases hfirst : place.first? with _ | token
  · simp [Place.isPunctuator, hfirst] at h
  · rw [Place.isPunctuator, hfirst] at h
    exact ⟨token, rfl, kind_of_isPunctuator h⟩

theorem isPunctuator_of_first? {text : String} (h : place.first? = some token)
    (hmark : token.isPunctuator text = true) : place.isPunctuator text = true := by
  rwa [Place.isPunctuator, h]

theorem passes_mark {text : String} (h : place.isPunctuator text = true)
    (htext : text ∉ brackets) : Passes place place.next before before := by
  obtain ⟨token, hfirst, -, hvalue⟩ := exists_first?_of_isPunctuator h
  apply passes_plain hfirst
  apply notBracket_of_value
  rwa [hvalue]

theorem isOpener_of_value (hkind : token.kind = .punctuator)
    (hvalue : token.value ∈ ["(", "[", "\x7b"]) : token.isOpener = true := by
  simp only [List.mem_cons, List.not_mem_nil, or_false] at hvalue
  simp [Token.isOpener, hkind, hvalue, or_assoc]

theorem isCloser_of_value (hkind : token.kind = .punctuator)
    (hvalue : token.value ∈ [")", "]", "\x7d"]) : token.isCloser = true := by
  simp only [List.mem_cons, List.not_mem_nil, or_false] at hvalue
  simp [Token.isCloser, hkind, hvalue, or_assoc]

theorem passes_open {text : String} (h : place.isPunctuator text = true)
    (htext : text ∈ ["(", "[", "\x7b"]) : Passes place place.next before (before + 1) := by
  obtain ⟨token, hfirst, hkind, rfl⟩ := exists_first?_of_isPunctuator h
  exact passes_opener hfirst (isOpener_of_value hkind htext)

theorem passes_close {text : String} (h : place.isPunctuator text = true)
    (htext : text ∈ [")", "]", "\x7d"]) : Passes place place.next (before + 1) before := by
  obtain ⟨token, hfirst, hkind, rfl⟩ := exists_first?_of_isPunctuator h
  exact passes_closer hfirst (isCloser_of_value hkind htext)

theorem passes_name (h : place.isAnyName = true) : Passes place place.next before before := by
  rcases hfirst : place.first? with _ | token
  · simp [Place.isAnyName, hfirst] at h
  · have hkind : token.kind = .name := by
      simpa [Place.isAnyName, hfirst, Token.isAnyName] using h
    exact passes_plain hfirst (notBracket_of_kind (by simp [hkind]))

end Next

/-- Passing a group from inside leaves all but its own closers to the tokens to come. -/
theorem closes_passGroupFrom {depth n : Nat} (hdepth : 0 < depth) (previous : Option Token)
    {tokens : List Token} (h : Closes (depth + n) tokens) :
    Closes n (passGroupFrom depth previous tokens).rest := by
  induction tokens generalizing depth previous with
  | nil =>
    have hnone : depth + n = 0 := h
    omega
  | cons token rest ih =>
    rw [passGroupFrom]
    by_cases hopener : token.isOpener = true
    · rw [if_pos hopener]
      rw [closes_opener hopener, Nat.add_right_comm] at h
      exact ih (Nat.succ_pos depth) _ h
    · rw [if_neg hopener]
      by_cases hcloser : token.isCloser = true
      · rw [if_pos hcloser]
        obtain ⟨m, hm, hrest⟩ := (closes_closer hcloser).1 h
        split
        · rwa [show n = m by omega]
        · apply ih (by omega)
          rwa [show depth - 1 + n = m by omega]
      · rw [if_neg hcloser]
        rw [Bool.not_eq_true] at hopener hcloser
        rw [closes_plain hopener hcloser] at h
        exact ih hdepth _ h

theorem tokens_passGroupFrom (depth : Nat) (previous : Option Token) (tokens : List Token) :
    ∃ passed, tokens = passed ++ (passGroupFrom depth previous tokens).rest ∧
      (passGroupFrom depth previous tokens).previous = lastOf previous passed := by
  induction tokens generalizing depth previous with
  | nil => exact ⟨[], rfl, rfl⟩
  | cons token rest ih =>
    have hlater : ∀ depth, ∃ passed,
        token :: rest = passed ++ (passGroupFrom depth (some token) rest).rest ∧
          (passGroupFrom depth (some token) rest).previous = lastOf previous passed := by
      intro depth
      obtain ⟨passed, hrest, hprevious⟩ := ih depth (some token)
      exact ⟨token :: passed, congrArg (token :: ·) hrest, by rw [hprevious, lastOf_cons]⟩
    rw [passGroupFrom]
    split
    · exact hlater _
    · split
      · split
        · exact ⟨[token], rfl, rfl⟩
        · exact hlater _
      · exact hlater _

theorem passes_passGroup {place : Place} {token : Token} (h : place.first? = some token)
    (hopener : token.isOpener = true) (before : Nat) :
    Passes place (passGroup place) before before where
  tokens := tokens_passGroupFrom 0 place.previous place.rest
  depth := by
    intro n hn
    rw [(rest_of_first? h).1, closes_opener hopener] at hn
    rw [passGroup, (rest_of_first? h).1, passGroupFrom, if_pos hopener]
    apply closes_passGroupFrom Nat.one_pos
    rwa [Nat.add_comm]

theorem passes_group {place : Place} {text : String} (h : place.isPunctuator text = true)
    (htext : text ∈ ["(", "[", "\x7b"]) (before : Nat) :
    Passes place (passGroup place) before before := by
  obtain ⟨token, hfirst, hkind, rfl⟩ := exists_first?_of_isPunctuator h
  exact passes_passGroup hfirst (isOpener_of_value hkind htext) before

/-- Type arguments leave it to the tokens behind them to close what is open. -/
theorem passes_typeArgumentsFrom {depth : Nat} {place last : Place}
    (h : typeArgumentsFrom depth place = some last) (before : Nat) :
    Passes place last before before := by
  fun_induction typeArgumentsFrom depth place with
  | case1 => cases h
  | case2 => cases h
  | case3 depth place token hf _ hopener ih =>
    exact (passes_passGroup hf hopener before).trans (ih h)
  | case4 depth place token hf _ _ hangle ih =>
    exact (passes_mark (isPunctuator_of_first? hf hangle) (by decide)).trans (ih h)
  | case5 depth place token hf _ _ _ hangle _ ih =>
    exact (passes_plain hf (notBracket_of_closedAngles hangle)).trans (ih h)
  | case6 place token hf _ _ _ hangle =>
    cases h
    exact passes_plain hf (notBracket_of_closedAngles hangle)
  | case7 => cases h
  | case8 depth place token hf _ _ _ _ hfits ih =>
    exact (passes_plain hf (notBracket_of_fitsTypeArguments hfits)).trans (ih h)
  | case9 => cases h

theorem passes_typeArguments? {place last : Place} (h : typeArguments? place = some last)
    (before : Nat) : Passes place last before before := by
  unfold typeArguments? at h
  split at h
  · exact passes_typeArgumentsFrom h before
  · cases h

/-- An expression that ends before every closer is passed without one. -/
theorem passes_passExpression {ends : Token → Bool}
    (hends : ∀ token, token.isCloser = true → ends token = true) (place : Place) (before : Nat) :
    Passes place (passExpression ends place) before before := by
  fun_induction passExpression ends place with
  | case1 place hf => exact .refl place before
  | case2 place token hf hend => exact .refl place before
  | case3 place token hf _ hopener ih => exact (passes_passGroup hf hopener before).trans ih
  | case4 place token hf _ _ _ after ha ih => exact (passes_typeArguments? ha before).trans ih
  | case5 place token hf _ _ hangle _ ih =>
    exact (passes_mark (isPunctuator_of_first? hf hangle) (by decide)).trans ih
  | case6 place token hf hend hopener _ ih =>
    have hcloser : token.isCloser = false := by
      rw [Bool.eq_false_iff]
      exact fun hcloser => hend (hends token hcloser)
    exact (passes_plain hf ⟨Bool.eq_false_iff.2 hopener, hcloser⟩).trans ih

theorem passes_passDefault (place : Place) (before : Nat) :
    Passes place (passDefault place) before before := by
  apply passes_passExpression
  intro token hcloser
  rw [endsDefault, hcloser, Bool.or_true]

theorem passes_passInitializer (place : Place) (before : Nat) :
    Passes place (passInitializer place) before before := by
  apply passes_passExpression
  intro token hcloser
  rw [endsInitializer, endsDefault, hcloser, Bool.or_true, Bool.or_true]

theorem passes_passAnnotatedType (angles : Nat) (place : Place) (before : Nat) :
    Passes place (passAnnotatedType angles place) before before := by
  fun_induction passAnnotatedType angles place with
  | case1 angles place hf => exact .refl place before
  | case2 angles place token hf hend => exact .refl place before
  | case3 angles place token hf _ hopener ih => exact (passes_passGroup hf hopener before).trans ih
  | case4 angles place token hf _ _ hangle ih =>
    exact (passes_mark (isPunctuator_of_first? hf hangle) (by decide)).trans ih
  | case5 angles place token hf _ _ _ hangle ih =>
    exact (passes_plain hf (notBracket_of_closedAngles hangle)).trans ih
  | case6 => exact .refl _ before
  | case7 => exact .refl _ before
  | case8 angles place token hf _ hopener _ _ _ hcloser ih =>
    exact (passes_plain hf ⟨Bool.eq_false_iff.2 hopener, Bool.eq_false_iff.2 hcloser⟩).trans ih

/-- Passes what may stand between the pattern of a declarator and its initializer: the mark that
asserts it, and its type annotation. -/
def passOptionalType (place : Place) : Place :=
  let asserted := if place.isPunctuator "!" then place.next else place
  if asserted.isPunctuator ":" then passAnnotatedType 0 asserted.next else asserted

theorem passDeclaratorTail_eq (place : Place) :
    passDeclaratorTail place =
      if (passOptionalType place).isPunctuator "=" then
        passInitializer (passOptionalType place).next
      else passOptionalType place :=
  rfl

theorem passes_passOptionalType (place : Place) (before : Nat) :
    Passes place (passOptionalType place) before before := by
  have hassert : Passes place (if place.isPunctuator "!" then place.next else place)
      before before := by
    split
    · rename_i hmark
      exact passes_mark hmark (by decide)
    · exact .refl place before
  unfold passOptionalType
  dsimp only
  generalize (if place.isPunctuator "!" then place.next else place) = asserted at hassert ⊢
  split
  · rename_i hcolon
    have htype := (passes_mark hcolon (by decide)).trans (passes_passAnnotatedType 0 _ before)
    exact hassert.trans htype
  · exact hassert

end RouteTable.Exports
