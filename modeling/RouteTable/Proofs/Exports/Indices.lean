import RouteTable.Exports.Collect

/-!
The scan for exports once more, by indices into the list of tokens and in steps: every turn of a
loop and every call of a pattern's reader takes one of the steps that are given. An index may be
counted on past the end of the tokens, and to take more angle brackets away than are open is a fault
of its own; so whether scanning ends, where, and with which fault is for these readers to show.
-/

namespace RouteTable.Exports.ByIndex

open Script

inductive Stop where
  /-- The steps it was given are taken. -/
  | spent
  /-- More angle brackets are closed than are open. -/
  | underflow
  | refused (e : ExportError)
deriving DecidableEq

abbrev Walk := Reporting String Stop

section Readers

variable {α : Type} (tokens : List Token)

def isPunctuator (i : Nat) (text : String) : Bool :=
  tokens[i]?.any (·.isPunctuator text)

def isName (i : Nat) (name : String) : Bool :=
  tokens[i]?.any (·.isName name)

def isAnyName (i : Nat) : Bool :=
  tokens[i]?.any Token.isAnyName

def record (name : String) : Walk Unit := .report name

def refuse (i : Nat) (rule : ExportRule) : Walk α :=
  .fail (.refused ⟨tokens[i]?.map Token.position, rule⟩)

def refuseFound (i : Nat) (rule : Found → ExportRule) : Walk α :=
  refuse tokens i (rule tokens[i]?)

/-- The index behind the bracketed group that starts at `j`, with `depth` brackets open. -/
def skipBalanced : Nat → Nat → Nat → Walk Nat
  | 0, _, _ => .fail .spent
  | steps + 1, depth, j =>
    match tokens[j]? with
    | none => pure j
    | some token =>
      if token.isOpener then skipBalanced steps (depth + 1) (j + 1)
      else if token.isCloser then
        if depth - 1 = 0 then pure (j + 1) else skipBalanced steps (depth - 1) (j + 1)
      else skipBalanced steps depth (j + 1)

def takeAway (depth closed : Nat) : Walk Nat :=
  if closed ≤ depth then pure (depth - closed) else .fail .underflow

/-- The index behind the type arguments that start at `start`, read up to `j`, with `depth` angle
brackets open. -/
def typeArgumentsFrom (start : Nat) : Nat → Nat → Nat → Walk (Option Nat)
  | 0, _, _ => .fail .spent
  | steps + 1, depth, j =>
    match tokens[j]? with
    | none => pure none
    | some token =>
      if start < j && opensStatement token then pure none
      else if token.isOpener then do
        let after ← skipBalanced tokens steps 0 j
        typeArgumentsFrom start steps depth after
      else if token.isPunctuator "<" then typeArgumentsFrom start steps (depth + 1) (j + 1)
      else if closedAngles token ≠ 0 then
        if depth ≤ closedAngles token then
          pure (if closedAngles token = depth then some (j + 1) else none)
        else do
          let left ← takeAway depth (closedAngles token)
          typeArgumentsFrom start steps left (j + 1)
      else if fitsTypeArguments token then typeArgumentsFrom start steps depth (j + 1)
      else pure none

def typeArgumentsEnd (steps i : Nat) : Walk (Option Nat) :=
  if 0 < i && isAnyName tokens (i - 1) then typeArgumentsFrom tokens i steps 0 i else pure none

/-- The index where an expression ends that is passed from `i` on. -/
def skipExpression (ends : Token → Bool) : Nat → Nat → Walk Nat
  | 0, _ => .fail .spent
  | steps + 1, i =>
    match tokens[i]? with
    | none => pure i
    | some token =>
      if ends token then pure i
      else if token.isOpener then do
        let after ← skipBalanced tokens steps 0 i
        skipExpression ends steps after
      else if token.isPunctuator "<" then do
        match ← typeArgumentsEnd tokens steps i with
        | some after => skipExpression ends steps after
        | none => skipExpression ends steps (i + 1)
      else skipExpression ends steps (i + 1)

def skipDefault (steps i : Nat) : Walk Nat :=
  skipExpression tokens endsDefault steps i

def skipInitializer (steps i : Nat) : Walk Nat :=
  skipExpression tokens endsInitializer steps i

/-- The index where a type annotation ends that is passed from `i` on, with `angles` open angle
brackets. -/
def skipAnnotatedType : Nat → Nat → Nat → Walk Nat
  | 0, _, _ => .fail .spent
  | steps + 1, angles, i =>
    match tokens[i]? with
    | none => pure i
    | some token =>
      if angles = 0 && opensStatement token then pure i
      else if token.isOpener then do
        let after ← skipBalanced tokens steps 0 i
        skipAnnotatedType steps angles after
      else if token.isPunctuator "<" then skipAnnotatedType steps (angles + 1) (i + 1)
      else if closedAngles token ≠ 0 then
        skipAnnotatedType steps (angles - closedAngles token) (i + 1)
      else if angles = 0 &&
          (token.isPunctuator "=" || token.isPunctuator "," || token.isPunctuator ";") then pure i
      else if token.isCloser then pure i
      else skipAnnotatedType steps angles (i + 1)

def skipOptionalDefault (steps i : Nat) : Walk Nat :=
  if isPunctuator tokens i "=" then skipDefault tokens steps (i + 1) else pure i

def skipKey (steps i : Nat) : Walk Nat :=
  match tokens[i]? with
  | none => refuse tokens i .unterminatedObjectPattern
  | some key =>
    if key.isPunctuator "[" then skipBalanced tokens steps 0 i
    else if key.kind == .name || key.kind == .string || key.kind == .number then pure (i + 1)
    else refuseFound tokens i .unexpectedInObjectPattern

mutual

def bindingPattern : Nat → Nat → Walk Nat
  | 0, _ => .fail .spent
  | steps + 1, i =>
    match tokens[i]? with
    | none => refuse tokens i .missingBinding
    | some token =>
      if token.isAnyName then do
        record token.value
        pure (i + 1)
      else if token.isPunctuator "\x7b" then objectPattern steps (i + 1)
      else if token.isPunctuator "[" then arrayPattern steps (i + 1)
      else refuseFound tokens i .expectedBinding
termination_by structural steps => steps

def objectProperty : Nat → Nat → Walk Nat
  | 0, _ => .fail .spent
  | steps + 1, i =>
    if isPunctuator tokens i "..." then bindingPattern steps (i + 1)
    else if isAnyName tokens i && !isPunctuator tokens (i + 1) ":" then do
      record ((tokens[i]?.map Token.value).getD "")
      skipOptionalDefault tokens steps (i + 1)
    else do
      let colon ← skipKey tokens steps i
      if isPunctuator tokens colon ":" then
        let bound ← bindingPattern steps (colon + 1)
        skipOptionalDefault tokens steps bound
      else refuse tokens colon .expectedKeyColon
termination_by structural steps => steps

/-- One turn of the loop over the properties of an object pattern, and the turns after it. -/
def objectPattern : Nat → Nat → Walk Nat
  | 0, _ => .fail .spent
  | steps + 1, i =>
    if isPunctuator tokens i "\x7d" then pure (i + 1)
    else do
      let after ← objectProperty steps i
      if isPunctuator tokens after "," then objectPattern steps (after + 1)
      else if isPunctuator tokens after "\x7d" then objectPattern steps after
      else refuseFound tokens after .expectedObjectSeparator
termination_by structural steps => steps

/-- One turn of the loop over the elements of an array pattern, and the turns after it. -/
def arrayPattern : Nat → Nat → Walk Nat
  | 0, _ => .fail .spent
  | steps + 1, i =>
    if isPunctuator tokens i "]" then pure (i + 1)
    else if isPunctuator tokens i "," then arrayPattern steps (i + 1)
    else do
      let bound ← bindingPattern steps (if isPunctuator tokens i "..." then i + 1 else i)
      let after ← skipOptionalDefault tokens steps bound
      if isPunctuator tokens after "," then arrayPattern steps (after + 1)
      else if isPunctuator tokens after "]" then arrayPattern steps after
      else refuseFound tokens after .expectedArraySeparator
termination_by structural steps => steps

end

def skipOptionalType (steps i : Nat) : Walk Nat :=
  if isPunctuator tokens i ":" then skipAnnotatedType tokens steps 0 (i + 1) else pure i

def skipOptionalInitializer (steps i : Nat) : Walk Nat :=
  if isPunctuator tokens i "=" then skipInitializer tokens steps (i + 1) else pure i

def skipDeclaratorTail (steps i : Nat) : Walk Nat := do
  let annotated ← skipOptionalType tokens steps (if isPunctuator tokens i "!" then i + 1 else i)
  skipOptionalInitializer tokens steps annotated

def variableDeclarations : Nat → Nat → Walk Nat
  | 0, _ => .fail .spent
  | steps + 1, i => do
    let bound ← bindingPattern tokens steps i
    let after ← skipDeclaratorTail tokens steps bound
    if isPunctuator tokens after "," then variableDeclarations steps (after + 1) else pure after

def skipMembers : Nat → Nat → Walk Nat
  | 0, _ => .fail .spent
  | steps + 1, i =>
    if isPunctuator tokens i "." && isAnyName tokens (i + 1) then skipMembers steps (i + 2)
    else pure i

def skipDecorator (steps i : Nat) : Walk Nat :=
  if isAnyName tokens i then do
    let named ← skipMembers tokens steps (i + 1)
    if isPunctuator tokens named "(" then skipBalanced tokens steps 0 named else pure named
  else refuse tokens i .expectedDecoratorName

def skipDecorators : Nat → Nat → Walk Nat
  | 0, _ => .fail .spent
  | steps + 1, i =>
    if isPunctuator tokens i "@" then do
      let after ← skipDecorator tokens steps (i + 1)
      skipDecorators steps after
    else pure i

def exportName (i : Nat) : Walk String :=
  match tokens[i]? with
  | some token =>
    if token.kind == .name || token.kind == .string then pure token.value
    else refuseFound tokens i .expectedExportName
  | none => refuseFound tokens i .expectedExportName

def moduleSource (i : Nat) : Walk Nat :=
  if isName tokens i "from" then
    if tokens[i + 1]?.any (·.kind == .string) then pure (i + 2)
    else refuse tokens (i + 1) .expectedModuleSpecifier
  else refuseFound tokens i .expectedFrom

def declarationName (declared : Declared) (i : Nat) : Walk Nat :=
  let start := if declared = .functionName ∧ isPunctuator tokens i "*" then i + 1 else i
  match tokens[start]? with
  | some token =>
    let beforeHeritage :=
      declared == .className && (token.value == "extends" || token.value == "implements")
    if token.isAnyName && !beforeHeritage then do
      record token.value
      pure (start + 1)
    else refuse tokens start (.unnamedDeclaration declared)
  | none => refuse tokens start (.unnamedDeclaration declared)

def importEquals (i : Nat) : Walk Nat :=
  let typeOnly := isName tokens i "type" && isAnyName tokens (i + 1)
  let start := if typeOnly then i + 1 else i
  match tokens[start]? with
  | some token =>
    if token.isAnyName && isPunctuator tokens (start + 1) "=" then do
      if !typeOnly then record token.value
      pure (start + 2)
    else refuse tokens start .expectedImportAlias
  | none => refuse tokens start .expectedImportAlias

def exportStar (i : Nat) : Walk Nat :=
  if isName tokens i "as" then do
    let name ← exportName tokens (i + 1)
    record name
    moduleSource tokens (i + 2)
  else moduleSource tokens i

def isTypeModifier (i : Nat) : Bool :=
  isName tokens i "type" &&
    match tokens[i + 1]? with
    | some token =>
      if token.isName "as" then
        isName tokens (i + 2) "as" || isPunctuator tokens (i + 2) "," ||
          isPunctuator tokens (i + 2) "\x7d"
      else token.kind == .name || token.kind == .string
    | none => false

def exportSpecifier (typeOnly : Bool) (i : Nat) : Walk Nat := do
  let modified := isTypeModifier tokens i
  let start := if modified then i + 1 else i
  let name ← exportName tokens start
  if isName tokens (start + 1) "as" then
    let shown ← exportName tokens (start + 2)
    if !typeOnly && !modified then record shown
    pure (start + 3)
  else
    if !typeOnly && !modified then record name
    pure (start + 1)

/-- One turn of the loop over the specifiers of the list that was opened at `opened`, and the turns
after it. -/
def exportSpecifiers (typeOnly : Bool) (opened : Nat) : Nat → Nat → Walk Nat
  | 0, _ => .fail .spent
  | steps + 1, i =>
    if isPunctuator tokens i "\x7d" then pure (i + 1)
    else if tokens[i]?.isNone then refuse tokens opened .unterminatedList
    else do
      let after ← exportSpecifier tokens typeOnly i
      if isPunctuator tokens after "," then exportSpecifiers typeOnly opened steps (after + 1)
      else if isPunctuator tokens after "\x7d" then exportSpecifiers typeOnly opened steps after
      else refuseFound tokens after .expectedListSeparator

def exportList (typeOnly : Bool) (steps i : Nat) : Walk Nat := do
  let listed ← exportSpecifiers tokens typeOnly i steps (i + 1)
  if isName tokens listed "from" then moduleSource tokens listed else pure listed

/-- The rest of an export statement that starts with the word `word`, which is at `i`. -/
def exportDeclaration (word : String) (steps i : Nat) : Walk Nat :=
  if word == "default" then do
    record Bindings.defaultName
    pure (i + 1)
  else if word == "type" && isPunctuator tokens (i + 1) "\x7b" then
    exportList tokens true steps (i + 1)
  else if ["type", "interface", "declare", "as"].contains word then pure (i + 1)
  else if word == "function" then declarationName tokens .functionName (i + 1)
  else if word == "async" && isName tokens (i + 1) "function" then
    declarationName tokens .functionName (i + 2)
  else if word == "class" then declarationName tokens .className (i + 1)
  else if word == "abstract" && isName tokens (i + 1) "class" then
    declarationName tokens .className (i + 2)
  else if word == "enum" then declarationName tokens .enumName (i + 1)
  else if word == "const" && isName tokens (i + 1) "enum" then pure (i + 2)
  else if ["const", "let", "var"].contains word then variableDeclarations tokens steps (i + 1)
  else if (word == "namespace" || word == "module") && isAnyName tokens (i + 1) then
    declarationName tokens .namespaceName (i + 1)
  else if word == "import" then importEquals tokens (i + 1)
  else refuseFound tokens i .unexpectedAfterExport

/-- Reads an export statement that starts at `start`, behind the word `export`: the index where
scanning goes on. -/
def exportStatement (steps start : Nat) : Walk Nat := do
  let i ← skipDecorators tokens steps start
  if isAnyName tokens i then
    exportDeclaration tokens ((tokens[i]?.map Token.value).getD "") steps i
  else if isPunctuator tokens i "\x7b" then exportList tokens false steps i
  else if isPunctuator tokens i "*" then exportStar tokens (i + 1)
  else if isPunctuator tokens i "=" then pure (i + 1)
  else if tokens[i]?.isNone then refuse tokens i .expectedDeclaration
  else refuseFound tokens i .unexpectedAfterExport

/-- One turn of the loop over a module's tokens, inside `depth` open brackets, and the turns after
it. -/
def analyzeFrom : Nat → Nat → Nat → Walk Unit
  | 0, _, _ => .fail .spent
  | steps + 1, depth, i =>
    match tokens[i]? with
    | none => pure ()
    | some token =>
      let inside := depthAfter depth token
      let afterAccess := 0 < i && tokens[i - 1]?.any Token.isAccess
      if inside == 0 && token.isName "export" && !afterAccess then do
        let after ← exportStatement tokens steps (i + 1)
        analyzeFrom steps inside after
      else analyzeFrom steps inside (i + 1)

def analyze (steps : Nat) : Walk Unit :=
  analyzeFrom tokens steps 0 0

end Readers

end RouteTable.Exports.ByIndex
