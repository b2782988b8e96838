import RouteTable.Exports.Pattern
import RouteTable.Exports.Bindings

/-!
Export statements: what may follow the word `export`, which names it exports, and where scanning
goes on. Statements that export types alone record nothing.
-/

namespace RouteTable.Exports

open Script

def passMembers (place : Place) : Place :=
  if place.isPunctuator "." then
    if _hname : place.next.isAnyName then passMembers place.next.next else place
  else place
termination_by place.remaining
decreasing_by
  exact Nat.lt_of_lt_of_le (Place.remaining_next_lt_of_any _hname) place.remaining_next_le

theorem remaining_passMembers_le (place : Place) :
    (passMembers place).remaining ≤ place.remaining := by
  fun_induction passMembers place with
  | case1 place hdot hname ih =>
    exact Nat.le_trans ih (Nat.le_trans place.next.remaining_next_le place.remaining_next_le)
  | case2 => exact Nat.le_refl _
  | case3 => exact Nat.le_refl _

/-- Passes a decorator after its `@`: a dotted name with optional arguments. -/
def passDecorator (place : Place) : Scan place.Beyond :=
  if hname : place.isAnyName then
    let named := passMembers place.next
    have hnamed : named.remaining < place.remaining :=
      Nat.lt_of_le_of_lt (remaining_passMembers_le _) (Place.remaining_next_lt_of_any hname)
    if hcall : named.isPunctuator "(" then
      pure ⟨passGroup named, by
        obtain ⟨token, htoken⟩ : ∃ token, named.first? = some token := by
          rcases hfirst : named.first? with _ | token
          · simp [Place.isPunctuator, hfirst] at hcall
          · exact ⟨token, rfl⟩
        exact Nat.lt_trans (remaining_passGroup_lt htoken) hnamed⟩
    else pure ⟨named, hnamed⟩
  else .fail place .expectedDecoratorName

def passDecorators (place : Place) :
    Scan { later : Place // later.remaining ≤ place.remaining } :=
  if hat : place.isPunctuator "@" then do
    have hnext := Place.remaining_next_lt_of_isPunctuator hat
    let ⟨after, hafter⟩ ← passDecorator place.next
    let ⟨last, hlast⟩ ← passDecorators after
    pure ⟨last, Nat.le_trans hlast (Nat.le_of_lt (Nat.lt_trans hafter hnext))⟩
  else pure ⟨place, Nat.le_refl _⟩
termination_by place.remaining
decreasing_by
  exact Nat.lt_trans hafter hnext

/-- Reads the name of an export: a name, keywords included, or a string. -/
def moduleExportName (place : Place) : Scan (String × place.Beyond) :=
  match hf : place.first? with
  | some token =>
    if token.kind == .name || token.kind == .string then
      pure (token.value, ⟨place.next, Place.remaining_next_lt hf⟩)
    else .failFound place .expectedExportName
  | none => .failFound place .expectedExportName

def fromClause (place : Place) : Scan place.Beyond :=
  if hfrom : place.isName "from" then
    if place.next.first?.any (·.kind == .string) then
      pure ⟨place.next.next, Nat.lt_of_le_of_lt place.next.remaining_next_le
        (Place.remaining_next_lt_of_isName hfrom)⟩
    else .fail place.next .expectedModuleSpecifier
  else .failFound place .expectedFrom

/-- Records the name of a declaration and passes it. A generator's star may stand before the name
of a function, and a class without a name goes on with its heritage. -/
def declaredName (declared : Declared) (place : Place) : Scan place.Beyond :=
  let start : { p : Place // p.remaining ≤ place.remaining } :=
    if declared = .functionName ∧ place.isPunctuator "*" then ⟨place.next, place.remaining_next_le⟩
    else ⟨place, Nat.le_refl _⟩
  match hf : start.1.first? with
  | some token =>
    let beforeHeritage :=
      declared == .className && (token.value == "extends" || token.value == "implements")
    if token.isAnyName && !beforeHeritage then do
      .record token.value
      pure ⟨start.1.next, Nat.lt_of_lt_of_le (Place.remaining_next_lt hf) start.2⟩
    else .fail start.1 (.unnamedDeclaration declared)
  | none => .fail start.1 (.unnamedDeclaration declared)

/-- Reads `A = ` of an import alias after `export import`. With `type` before the alias it is one
of a type. -/
def importAlias (place : Place) : Scan place.Beyond :=
  let typeOnly := place.isName "type" && place.next.isAnyName
  let start : { p : Place // p.remaining ≤ place.remaining } :=
    if typeOnly then ⟨place.next, place.remaining_next_le⟩ else ⟨place, Nat.le_refl _⟩
  match hf : start.1.first? with
  | some token =>
    if token.isAnyName && start.1.next.isPunctuator "=" then do
      if !typeOnly then .record token.value
      pure ⟨start.1.next.next, Nat.lt_of_le_of_lt start.1.next.remaining_next_le
        (Nat.lt_of_lt_of_le (Place.remaining_next_lt hf) start.2)⟩
    else .fail start.1 .expectedImportAlias
  | none => .fail start.1 .expectedImportAlias

/-- Reads `* from "m"` or `* as name from "m"` after the star. -/
def exportAll (place : Place) : Scan place.Beyond :=
  if place.isName "as" then do
    let (name, ⟨after, hafter⟩) ← moduleExportName place.next
    .record name
    let ⟨last, hlast⟩ ← fromClause after
    pure ⟨last, Nat.lt_trans hlast (Nat.lt_of_lt_of_le hafter place.remaining_next_le)⟩
  else fromClause place

/-- Whether `type` at the start of a specifier marks it as one of a type. It does before another
name or a string. Before `as` it does only if `as` is what it marks, because another `as`, a comma
or the end of the list follows; `type as x` exports a binding named `type`. -/
def isTypeModifier (place : Place) : Bool :=
  place.isName "type" &&
    match place.next.first? with
    | some token =>
      if token.isName "as" then
        let after := place.next.next
        after.isName "as" || after.isPunctuator "," || after.isPunctuator "\x7d"
      else token.kind == .name || token.kind == .string
    | none => false

/-- Reads a specifier of an export list, and records the name it exports unless it is of a type. -/
def exportSpecifier (typeOnly : Bool) (place : Place) : Scan place.Beyond := do
  let modified := isTypeModifier place
  let start : { p : Place // p.remaining ≤ place.remaining } :=
    if modified then ⟨place.next, place.remaining_next_le⟩ else ⟨place, Nat.le_refl _⟩
  let (name, ⟨named, hnamed⟩) ← moduleExportName start.1
  if named.isName "as" then
    let (shown, ⟨last, hlast⟩) ← moduleExportName named.next
    if !typeOnly && !modified then .record shown
    pure ⟨last, Nat.lt_of_lt_of_le
      (Nat.lt_trans (Nat.lt_of_lt_of_le hlast named.remaining_next_le) hnamed) start.2⟩
  else
    if !typeOnly && !modified then .record name
    pure ⟨named, Nat.lt_of_lt_of_le hnamed start.2⟩

/-- Reads the specifiers of the list that was opened at `opened`, and passes its closing brace. -/
def exportSpecifiers (typeOnly : Bool) (opened place : Place) : Scan place.Beyond :=
  if hend : place.isPunctuator "\x7d" then
    pure ⟨place.next, Place.remaining_next_lt_of_isPunctuator hend⟩
  else if place.first?.isNone then .fail opened .unterminatedList
  else do
    let ⟨after, hafter⟩ ← exportSpecifier typeOnly place
    if after.isPunctuator "," then
      let ⟨last, hlast⟩ ← exportSpecifiers typeOnly opened after.next
      pure ⟨last, Nat.lt_trans hlast (Nat.lt_of_le_of_lt after.remaining_next_le hafter)⟩
    else if after.isPunctuator "\x7d" then
      pure ⟨after.next, Nat.lt_of_le_of_lt after.remaining_next_le hafter⟩
    else .failFound after .expectedListSeparator
termination_by place.remaining
decreasing_by
  exact Nat.lt_of_le_of_lt after.remaining_next_le hafter

/-- Reads an export list from its opening brace on, and the module it exports from, if any. -/
def exportClause (typeOnly : Bool) (place : Place) : Scan place.Beyond := do
  let ⟨listed, hlisted⟩ ← exportSpecifiers typeOnly place place.next
  have hlt : listed.remaining < place.remaining :=
    Nat.lt_of_lt_of_le hlisted place.remaining_next_le
  if listed.isName "from" then
    let ⟨last, hlast⟩ ← fromClause listed
    pure ⟨last, Nat.lt_trans hlast hlt⟩
  else
    pure ⟨listed, hlt⟩

/-- Reads the rest of an export statement that starts with the word `word`, which is under the
place. -/
def exportDeclaration (word : String) (place : Place) (hword : place.isAnyName = true) :
    Scan place.Beyond :=
  have hnext : place.next.remaining < place.remaining := Place.remaining_next_lt_of_any hword
  let weaken (later : place.next.Beyond) : place.Beyond := ⟨later.1, Nat.lt_trans later.2 hnext⟩
  let weakenTwice (later : place.next.next.Beyond) : place.Beyond :=
    ⟨later.1, Nat.lt_trans later.2 (Nat.lt_of_le_of_lt place.next.remaining_next_le hnext)⟩
  let resume : place.Beyond := ⟨place.next, hnext⟩
  if word == "default" then do
    .record Bindings.defaultName
    pure resume
  else if word == "type" && place.next.isPunctuator "\x7b" then
    weaken <$> exportClause true place.next
  else if ["type", "interface", "declare", "as"].contains word then pure resume
  else if word == "function" then weaken <$> declaredName .functionName place.next
  else if word == "async" && place.next.isName "function" then
    weakenTwice <$> declaredName .functionName place.next.next
  else if word == "class" then weaken <$> declaredName .className place.next
  else if word == "abstract" && place.next.isName "class" then
    weakenTwice <$> declaredName .className place.next.next
  else if word == "enum" then weaken <$> declaredName .enumName place.next
  else if word == "const" && place.next.isName "enum" then
    pure ⟨place.next.next, Nat.lt_of_le_of_lt place.next.remaining_next_le hnext⟩
  else if ["const", "let", "var"].contains word then weaken <$> declarators place.next
  else if (word == "namespace" || word == "module") && place.next.isAnyName then
    weaken <$> declaredName .namespaceName place.next
  else if word == "import" then weaken <$> importAlias place.next
  else .failFound place .unexpectedAfterExport

/-- Reads an export statement after the word `export`, up to where scanning goes on. That is not
the statement's end: what is left of it holds no export of its own. -/
def readStatement (place : Place) : Scan place.Beyond := do
  let ⟨start, hstart⟩ ← passDecorators place
  let weaken (later : start.Beyond) : place.Beyond := ⟨later.1, Nat.lt_of_lt_of_le later.2 hstart⟩
  if hword : start.isAnyName then
    weaken <$> exportDeclaration ((start.first?.map Token.value).getD "") start hword
  else if start.isPunctuator "\x7b" then weaken <$> exportClause false start
  else if start.isPunctuator "*" then
    let ⟨last, hlast⟩ ← exportAll start.next
    pure (weaken ⟨last, Nat.lt_of_lt_of_le hlast start.remaining_next_le⟩)
  else if heq : start.isPunctuator "=" then
    pure (weaken ⟨start.next, Place.remaining_next_lt_of_isPunctuator heq⟩)
  else if start.first?.isNone then .fail start .expectedDeclaration
  else .failFound start .unexpectedAfterExport

end RouteTable.Exports
