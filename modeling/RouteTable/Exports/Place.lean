import RouteTable.Script.Token

/-!
Places in a list of tokens, and the passing of what export scanning does not look into: bracketed
groups, type arguments, expressions and type annotations.
-/

namespace RouteTable.Exports

open Script

/-- A place in a list of tokens: the token just passed, and those to come. -/
structure Place where
  previous : Option Token
  rest : List Token

namespace Place

def start (tokens : List Token) : Place := ⟨none, tokens⟩

def remaining (place : Place) : Nat := place.rest.length

def first? (place : Place) : Option Token := place.rest.head?

def next (place : Place) : Place :=
  match place.rest with
  | [] => place
  | token :: rest => ⟨some token, rest⟩

def isPunctuator (place : Place) (text : String) : Bool :=
  place.first?.any (·.isPunctuator text)

def isName (place : Place) (name : String) : Bool :=
  place.first?.any (·.isName name)

def isAnyName (place : Place) : Bool :=
  place.first?.any Token.isAnyName

abbrev Beyond (place : Place) : Type :=
  { later : Place // later.remaining < place.remaining }

theorem remaining_next_le (place : Place) : place.next.remaining ≤ place.remaining := by
  rcases place with ⟨p, _ | ⟨t, ts⟩⟩ <;> simp [next, remaining]

theorem remaining_next_lt {place : Place} {token : Token} (h : place.first? = some token) :
    place.next.remaining < place.remaining := by
  rcases place with ⟨p, _ | ⟨t, ts⟩⟩
  · simp [first?] at h
  · simp [next, remaining]

theorem remaining_next_lt_of_any {place : Place} {test : Token → Bool}
    (h : place.first?.any test = true) : place.next.remaining < place.remaining := by
  rcases place with ⟨p, _ | ⟨t, ts⟩⟩
  · simp [first?] at h
  · simp [next, remaining]

theorem remaining_next_lt_of_isPunctuator {place : Place} {text : String}
    (h : place.isPunctuator text = true) : place.next.remaining < place.remaining :=
  remaining_next_lt_of_any h

theorem remaining_next_lt_of_isName {place : Place} {name : String}
    (h : place.isName name = true) : place.next.remaining < place.remaining :=
  remaining_next_lt_of_any h

end Place

/-- Words that start a statement when a line ends before them. -/
def statementKeywords : List String :=
  ["export", "import", "function", "class", "const", "let", "var", "interface", "enum", "declare",
   "type", "namespace", "abstract"]

/-- Whether a token cannot go on with the expression before it. -/
def opensStatement (token : Token) : Bool :=
  token.freshLine && token.isAnyName && statementKeywords.contains token.value

/-- Passes tokens up to and over the closer that brings the number of open brackets back to
nothing, from `depth` open ones. Kinds of brackets are not told apart. -/
def passGroupFrom (depth : Nat) (previous : Option Token) : List Token → Place
  | [] => ⟨previous, []⟩
  | token :: rest =>
    if token.isOpener then passGroupFrom (depth + 1) (some token) rest
    else if token.isCloser then
      if depth ≤ 1 then ⟨some token, rest⟩ else passGroupFrom (depth - 1) (some token) rest
    else passGroupFrom depth (some token) rest

def passGroup (place : Place) : Place :=
  passGroupFrom 0 place.previous place.rest

theorem remaining_passGroupFrom_le (depth : Nat) (previous : Option Token) (tokens : List Token) :
    (passGroupFrom depth previous tokens).remaining ≤ tokens.length := by
  induction tokens generalizing depth previous with
  | nil => exact Nat.le_refl _
  | cons token rest ih =>
    unfold passGroupFrom
    split
    · exact Nat.le_succ_of_le (ih _ _)
    · split
      · split
        · exact Nat.le_succ _
        · exact Nat.le_succ_of_le (ih _ _)
      · exact Nat.le_succ_of_le (ih _ _)

theorem remaining_passGroup_lt {place : Place} {token : Token} (h : place.first? = some token) :
    (passGroup place).remaining < place.remaining := by
  rcases place with ⟨p, _ | ⟨t, ts⟩⟩
  · simp [Place.first?] at h
  · unfold passGroup passGroupFrom
    simp only [Place.remaining, List.length_cons]
    have hle := remaining_passGroupFrom_le
    simp only [Place.remaining] at hle
    split
    · exact Nat.lt_succ_of_le (hle _ _ _)
    · split
      · split
        · exact Nat.lt_succ_self _
        · exact Nat.lt_succ_of_le (hle _ _ _)
      · exact Nat.lt_succ_of_le (hle _ _ _)

def closedAngles (token : Token) : Nat :=
  if token.isPunctuator ">" then 1
  else if token.isPunctuator ">>" then 2
  else if token.isPunctuator ">>>" then 3
  else 0

/-- Whether a token may stand in type arguments, outside groups and apart from angle brackets. -/
def fitsTypeArguments (token : Token) : Bool :=
  match token.kind with
  | .punctuator => [",", ".", "?.", "|", "&", "?", ":", "=>", "...", "-"].contains token.value
  | .name | .string | .number | .template => true
  | _ => false

/-- Passes type arguments up to and over the bracket that closes the last of `depth` open angle
brackets. It is none if the tokens up to there cannot be type arguments, or close too many. -/
def typeArgumentsFrom (depth : Nat) (place : Place) : Option Place :=
  match _hf : place.first? with
  | none => none
  | some token =>
    if opensStatement token then none
    else if token.isOpener then typeArgumentsFrom depth (passGroup place)
    else if token.isPunctuator "<" then typeArgumentsFrom (depth + 1) place.next
    else if closedAngles token ≠ 0 then
      if closedAngles token < depth then
        typeArgumentsFrom (depth - closedAngles token) place.next
      else if closedAngles token = depth then some place.next
      else none
    else if fitsTypeArguments token then typeArgumentsFrom depth place.next
    else none
termination_by place.remaining
decreasing_by
  · exact remaining_passGroup_lt _hf
  all_goals exact Place.remaining_next_lt _hf

/-- Passes the type arguments that start at the place, whose first token is `<`. Only after a name
are there any; elsewhere, and where no list of type arguments follows, `<` compares. -/
def typeArguments? (place : Place) : Option Place :=
  if place.previous.any Token.isAnyName then typeArgumentsFrom 0 place else none

theorem remaining_typeArgumentsFrom_lt {depth : Nat} {place last : Place}
    (h : typeArgumentsFrom depth place = some last) : last.remaining < place.remaining := by
  fun_induction typeArgumentsFrom depth place with
  | case1 => cases h
  | case2 => cases h
  | case3 depth place token hf _ _ ih =>
    exact Nat.lt_trans (ih h) (remaining_passGroup_lt hf)
  | case4 depth place token hf _ _ _ ih => exact Nat.lt_trans (ih h) (Place.remaining_next_lt hf)
  | case5 depth place token hf _ _ _ _ _ ih =>
    exact Nat.lt_trans (ih h) (Place.remaining_next_lt hf)
  | case6 =>
    cases h
    exact Place.remaining_next_lt ‹_›
  | case7 => cases h
  | case8 depth place token hf _ _ _ _ _ ih =>
    exact Nat.lt_trans (ih h) (Place.remaining_next_lt hf)
  | case9 => cases h

theorem remaining_typeArguments?_lt {place last : Place} (h : typeArguments? place = some last) :
    last.remaining < place.remaining := by
  unfold typeArguments? at h
  split at h
  · exact remaining_typeArgumentsFrom_lt h
  · cases h

/-- Passes an expression up to a token that ends it, outside groups and type arguments. -/
def passExpression (ends : Token → Bool) (place : Place) : Place :=
  match _hf : place.first? with
  | none => place
  | some token =>
    if ends token then place
    else if token.isOpener then passExpression ends (passGroup place)
    else if token.isPunctuator "<" then
      match _ha : typeArguments? place with
      | some after => passExpression ends after
      | none => passExpression ends place.next
    else passExpression ends place.next
termination_by place.remaining
decreasing_by
  · exact remaining_passGroup_lt _hf
  · exact remaining_typeArguments?_lt _ha
  all_goals exact Place.remaining_next_lt _hf

theorem remaining_passExpression_le (ends : Token → Bool) (place : Place) :
    (passExpression ends place).remaining ≤ place.remaining := by
  fun_induction passExpression ends place with
  | case1 => exact Nat.le_refl _
  | case2 => exact Nat.le_refl _
  | case3 place token hf _ _ ih => exact Nat.le_trans ih (Nat.le_of_lt (remaining_passGroup_lt hf))
  | case4 place token hf _ _ _ after ha ih =>
    exact Nat.le_trans ih (Nat.le_of_lt (remaining_typeArguments?_lt ha))
  | case5 place token hf _ _ _ _ ih =>
    exact Nat.le_trans ih (Place.remaining_next_le _)
  | case6 place token hf _ _ _ ih => exact Nat.le_trans ih (Place.remaining_next_le _)

/-- A default in a pattern ends before a comma or a closer. -/
def endsDefault (token : Token) : Bool :=
  token.isPunctuator "," || token.isCloser

/-- An initializer also ends before a semicolon or the next statement. -/
def endsInitializer (token : Token) : Bool :=
  opensStatement token || token.isPunctuator ";" || endsDefault token

def passDefault (place : Place) : Place :=
  passExpression endsDefault place

def passInitializer (place : Place) : Place :=
  passExpression endsInitializer place

/-- Passes a type annotation with `angles` open angle brackets, up to the initializer, the next
declarator or the next statement. While an angle bracket is open, only a closer ends it. -/
def passAnnotatedType (angles : Nat) (place : Place) : Place :=
  match _hf : place.first? with
  | none => place
  | some token =>
    if angles = 0 && opensStatement token then place
    else if token.isOpener then passAnnotatedType angles (passGroup place)
    else if token.isPunctuator "<" then passAnnotatedType (angles + 1) place.next
    else if closedAngles token ≠ 0 then passAnnotatedType (angles - closedAngles token) place.next
    else if angles = 0 &&
        (token.isPunctuator "=" || token.isPunctuator "," || token.isPunctuator ";") then place
    else if token.isCloser then place
    else passAnnotatedType angles place.next
termination_by place.remaining
decreasing_by
  · exact remaining_passGroup_lt _hf
  all_goals exact Place.remaining_next_lt _hf

theorem remaining_passAnnotatedType_le (angles : Nat) (place : Place) :
    (passAnnotatedType angles place).remaining ≤ place.remaining := by
  fun_induction passAnnotatedType angles place with
  | case1 => exact Nat.le_refl _
  | case2 => exact Nat.le_refl _
  | case3 angles place token hf _ _ ih =>
    exact Nat.le_trans ih (Nat.le_of_lt (remaining_passGroup_lt hf))
  | case4 angles place token hf _ _ _ ih => exact Nat.le_trans ih (Place.remaining_next_le _)
  | case5 angles place token hf _ _ _ _ ih => exact Nat.le_trans ih (Place.remaining_next_le _)
  | case6 => exact Nat.le_refl _
  | case7 => exact Nat.le_refl _
  | case8 angles place token hf _ _ _ _ _ _ ih =>
    exact Nat.le_trans ih (Place.remaining_next_le _)

end RouteTable.Exports
