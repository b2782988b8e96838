import RouteTable.Exports.Scan

/-!
Declarations of variables: the names bound by identifiers and by object and array patterns of any
depth, each followed by an optional type annotation and initializer.
-/

namespace RouteTable.Exports

open Script

def passOptionalDefault (place : Place) : Place :=
  if place.isPunctuator "=" then passDefault place.next else place

theorem remaining_passOptionalDefault_le (place : Place) :
    (passOptionalDefault place).remaining ≤ place.remaining := by
  unfold passOptionalDefault
  split
  · exact Nat.le_trans (remaining_passExpression_le _ _) place.remaining_next_le
  · exact Nat.le_refl _

/-- Passes the key of a property in an object pattern: a name, a string, a number, or a bracketed
expression. -/
def passKey (place : Place) : Scan place.Beyond :=
  match hk : place.first? with
  | none => .fail place .unterminatedObjectPattern
  | some key =>
    if key.isPunctuator "[" then pure ⟨passGroup place, remaining_passGroup_lt hk⟩
    else if key.kind == .name || key.kind == .string || key.kind == .number then
      pure ⟨place.next, Place.remaining_next_lt hk⟩
    else .failFound place .unexpectedInObjectPattern

mutual

/-- Records the names that a pattern binds, and passes it. -/
def bindingTarget (place : Place) : Scan place.Beyond :=
  match hf : place.first? with
  | none => .fail place .missingBinding
  | some token =>
    have hnext := Place.remaining_next_lt hf
    if token.isAnyName then do
      .record token.value
      pure ⟨place.next, hnext⟩
    else if token.isPunctuator "\x7b" then do
      let ⟨after, hafter⟩ ← objectBindings place.next
      pure ⟨after, Nat.lt_trans hafter hnext⟩
    else if token.isPunctuator "[" then do
      let ⟨after, hafter⟩ ← arrayBindings place.next
      pure ⟨after, Nat.lt_trans hafter hnext⟩
    else .failFound place .expectedBinding
termination_by (place.remaining, 0)
decreasing_by
  all_goals exact Prod.Lex.left _ _ hnext

def objectProperty (place : Place) : Scan place.Beyond :=
  if hrest : place.isPunctuator "..." then do
    let ⟨after, hafter⟩ ← bindingTarget place.next
    pure ⟨after, Nat.lt_trans hafter (Place.remaining_next_lt_of_isPunctuator hrest)⟩
  else if hname : place.isAnyName ∧ !place.next.isPunctuator ":" then do
    .record ((place.first?.map Token.value).getD "")
    pure ⟨passOptionalDefault place.next, Nat.lt_of_le_of_lt (remaining_passOptionalDefault_le _)
      (Place.remaining_next_lt_of_any hname.1)⟩
  else do
    let ⟨colon, hcolon⟩ ← passKey place
    if colon.isPunctuator ":" then
      let ⟨after, hafter⟩ ← bindingTarget colon.next
      pure ⟨passOptionalDefault after, Nat.lt_of_le_of_lt (remaining_passOptionalDefault_le _)
        (Nat.lt_trans (Nat.lt_of_lt_of_le hafter colon.remaining_next_le) hcolon)⟩
    else .fail colon .expectedKeyColon
termination_by (place.remaining, 1)
decreasing_by
  · exact Prod.Lex.left _ _ (Place.remaining_next_lt_of_isPunctuator hrest)
  · exact Prod.Lex.left _ _ (Nat.lt_of_le_of_lt colon.remaining_next_le hcolon)

def objectBindings (place : Place) : Scan place.Beyond :=
  if hend : place.isPunctuator "\x7d" then
    pure ⟨place.next, Place.remaining_next_lt_of_isPunctuator hend⟩
  else do
    let ⟨after, hafter⟩ ← objectProperty place
    if after.isPunctuator "," then
      let ⟨last, hlast⟩ ← objectBindings after.next
      pure ⟨last, Nat.lt_trans hlast (Nat.lt_of_le_of_lt after.remaining_next_le hafter)⟩
    else if after.isPunctuator "\x7d" then
      pure ⟨after.next, Nat.lt_of_le_of_lt after.remaining_next_le hafter⟩
    else .failFound after .expectedObjectSeparator
termination_by (place.remaining, 2)
decreasing_by
  · exact Prod.Lex.right _ (by decide)
  · exact Prod.Lex.left _ _ (Nat.lt_of_le_of_lt after.remaining_next_le hafter)

def arrayBindings (place : Place) : Scan place.Beyond :=
  if hend : place.isPunctuator "]" then
    pure ⟨place.next, Place.remaining_next_lt_of_isPunctuator hend⟩
  else if hhole : place.isPunctuator "," then do
    let ⟨last, hlast⟩ ← arrayBindings place.next
    pure ⟨last, Nat.lt_trans hlast (Place.remaining_next_lt_of_isPunctuator hhole)⟩
  else do
    let element : { p : Place // p.remaining ≤ place.remaining } :=
      if place.isPunctuator "..." then ⟨place.next, place.remaining_next_le⟩
      else ⟨place, Nat.le_refl _⟩
    let ⟨bound, hbound⟩ ← bindingTarget element.1
    let after := passOptionalDefault bound
    have hafter : after.remaining < place.remaining :=
      Nat.lt_of_le_of_lt (remaining_passOptionalDefault_le _)
        (Nat.lt_of_lt_of_le hbound element.2)
    if after.isPunctuator "," then
      let ⟨last, hlast⟩ ← arrayBindings after.next
      pure ⟨last, Nat.lt_trans hlast (Nat.lt_of_le_of_lt after.remaining_next_le hafter)⟩
    else if after.isPunctuator "]" then
      pure ⟨after.next, Nat.lt_of_le_of_lt after.remaining_next_le hafter⟩
    else .failFound after .expectedArraySeparator
termination_by (place.remaining, 2)
decreasing_by
  · exact Prod.Lex.left _ _ (Place.remaining_next_lt_of_isPunctuator hhole)
  · rcases Nat.lt_or_eq_of_le element.2 with h | h
    · exact Prod.Lex.left _ _ h
    · rw [h]
      exact Prod.Lex.right _ (by decide)
  · exact Prod.Lex.left _ _ (Nat.lt_of_le_of_lt after.remaining_next_le hafter)

end

/-- Passes what may follow a pattern in a declarator: `!`, a type annotation, an initializer. -/
def passDeclaratorTail (place : Place) : Place :=
  let asserted := if place.isPunctuator "!" then place.next else place
  let annotated :=
    if asserted.isPunctuator ":" then passAnnotatedType 0 asserted.next else asserted
  if annotated.isPunctuator "=" then passInitializer annotated.next else annotated

theorem remaining_passDeclaratorTail_le (place : Place) :
    (passDeclaratorTail place).remaining ≤ place.remaining := by
  unfold passDeclaratorTail
  dsimp only
  generalize ha : (if place.isPunctuator "!" then place.next else place) = asserted
  have h1 : asserted.remaining ≤ place.remaining := by
    rw [← ha]
    split
    · exact place.remaining_next_le
    · exact Nat.le_refl _
  generalize hb : (if asserted.isPunctuator ":" then passAnnotatedType 0 asserted.next
    else asserted) = annotated
  have h2 : annotated.remaining ≤ asserted.remaining := by
    rw [← hb]
    split
    · exact Nat.le_trans (remaining_passAnnotatedType_le _ _) asserted.remaining_next_le
    · exact Nat.le_refl _
  split
  · exact Nat.le_trans (remaining_passExpression_le _ _)
      (Nat.le_trans annotated.remaining_next_le (Nat.le_trans h2 h1))
  · exact Nat.le_trans h2 h1

def declarators (place : Place) : Scan place.Beyond := do
  let ⟨bound, hbound⟩ ← bindingTarget place
  let after := passDeclaratorTail bound
  have hafter : after.remaining < place.remaining :=
    Nat.lt_of_le_of_lt (remaining_passDeclaratorTail_le _) hbound
  if after.isPunctuator "," then
    let ⟨last, hlast⟩ ← declarators after.next
    pure ⟨last, Nat.lt_trans hlast (Nat.lt_of_le_of_lt after.remaining_next_le hafter)⟩
  else
    pure ⟨after, hafter⟩
termination_by place.remaining
decreasing_by
  exact Nat.lt_of_le_of_lt after.remaining_next_le hafter

end RouteTable.Exports
