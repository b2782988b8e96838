import RouteTable.Proofs.Exports.ReadingAlike
import RouteTable.Proofs.Exports.Comparing

/-!
Type arguments in exported declarations. They are found just where a list of them stands behind a
name, and such a list in an initializer makes no difference to the names that a module exports: with
and without it the scan comes to the initializer in the same way, and goes on alike behind it.
-/

namespace RouteTable.Exports

open Script

section Closing

variable {tokens : List Token}

/-- Tokens close as many brackets as they do in front of others that close all of their own. -/
theorem closes_of_append {n : Nat} {front behind : List Token} (h : Closes n (front ++ behind))
    (hbehind : Closes 0 behind) : Closes n front := by
  induction front generalizing n with
  | nil =>
    have hall := countP_of_closes h
    have hown := countP_of_closes hbehind
    rw [List.nil_append] at hall
    show n = 0
    omega
  | cons token front ih => exact ⟨h.1, ih h.2⟩

/-- No bracket is open where a scan of balanced tokens comes to a declarator. -/
theorem closes_of_reachesDeclarator (hbalanced : Balanced tokens) {recorded : List String}
    {place : Place} (h : ReachesDeclarator tokens recorded place) : Closes 0 place.rest := by
  induction h with
  | @first recorded depth place token h hfirst hexport hword =>
    obtain ⟨-, hcloses⟩ := closes_of_reaches hbalanced h
    rw [(rest_of_first? hfirst).1] at hcloses
    have hnext : Closes 0 place.next.rest := by
      have hdepth := depthAfter_of_startsExport hexport
      rw [← hdepth]
      exact hcloses.2
    exact (passes_name (isAnyName_of_atVariables hword)).depth 0 hnext
  | @later recorded names place middle h htarget hcomma ih =>
    have hmiddle := closes_of_meets (meets_bindingTarget (List.Subset.refl _)) (a := middle)
      (by rw [htarget]) ih
    have htail := (passes_passDeclaratorTail middle.1 0).depth 0 hmiddle
    exact (passes_mark hcomma (by decide)).depth 0 htail

end Closing

section Dropping

variable {prior front list behind : List Token} {assign name : Token}

/-- A scan that comes to an initializer is what was recorded up to it, and the scan from its end. -/
theorem scan_of_initializer {tokens : List Token} {recorded names : List String} {place : Place}
    {middle : place.Beyond} (hreach : ReachesDeclarator tokens recorded place)
    (htarget : bindingTarget place = ⟨names, .ok middle⟩) {previous : Option Token}
    {rest : List Token} (htype : passOptionalType middle.1 = ⟨previous, assign :: rest⟩)
    (hassign : assign.isPunctuator "=" = true) :
    scan tokens = (⟨recorded ++ names, .ok ()⟩ : Scan Unit) >>= fun _ =>
      scanAfterDeclarator (passInitializer ⟨some assign, rest⟩) := by
  have hat : Place.isPunctuator ⟨previous, assign :: rest⟩ "=" = true := hassign
  have htail : passDeclaratorTail middle.1 = passInitializer ⟨some assign, rest⟩ := by
    rw [passDeclaratorTail_eq, htype, if_pos hat]
    rfl
  rw [scan_of_reachesDeclarator hreach, scanDeclarators_eq, htarget]
  simp only [Reporting.bind_ok, htail, List.append_assoc]

/-- The inventory is made from what is scanned and from the last token. -/
theorem collect_congr {tokens tokens' : List Token} (hscan : scan tokens' = scan tokens)
    (hlast : tokens'.getLast? = tokens.getLast?) : collect tokens' = collect tokens := by
  rw [collect, collect, hscan, hlast]

/-- A list of type arguments makes no difference to a scan that passes it in an initializer. -/
theorem scan_drop (hbalanced : Balanced (prior ++ assign :: (front ++ name :: (list ++ behind))))
    {recorded names : List String} {place : Place} {middle : place.Beyond}
    (hreach : ReachesDeclarator (prior ++ assign :: (front ++ name :: (list ++ behind))) recorded
      place)
    (htarget : bindingTarget place = ⟨names, .ok middle⟩) {previous : Option Token}
    (htype : passOptionalType middle.1 =
      ⟨previous, assign :: (front ++ name :: (list ++ behind))⟩)
    (hassign : assign.isPunctuator "=" = true) (hname : name.isAnyName = true)
    (hlist : IsTypeArguments list) (hbehind : behind.head?.any (·.isPunctuator "<") = false)
    (hwithin : (passInitializer ⟨some assign, front ++ name :: (list ++ behind)⟩).remaining ≤
      behind.length) :
    scan (prior ++ assign :: (front ++ name :: behind)) =
      scan (prior ++ assign :: (front ++ name :: (list ++ behind))) := by
  have hcloses : Closes 0 (assign :: (front ++ name :: (list ++ behind))) := by
    have hmiddle := closes_of_meets (meets_bindingTarget (List.Subset.refl _)) (a := middle)
      (by rw [htarget]) (closes_of_reachesDeclarator hbalanced hreach)
    have htyped := (passes_passOptionalType middle.1 0).depth 0 hmiddle
    rwa [htype] at htyped
  have hprior := closes_of_append (closes_of_balanced hbalanced) hcloses
  have halike := beginAlike_append hprior (isInert_of_isPunctuator (.inr rfl) hassign)
    (front ++ name :: (list ++ behind)) (front ++ name :: behind)
  obtain ⟨i, hplace, hreach'⟩ := halike.reachesDeclarator hreach
  obtain ⟨r, hmiddle, htarget'⟩ := halike.bindingTarget hplace rfl htarget
  obtain ⟨t, hassigned, htype'⟩ := halike.passOptionalType hmiddle rfl
  -- The initializer starts behind the tokens that both lists begin with.
  obtain rfl : t = prior.length := by
    have hremaining := hassigned.remaining
    have hle := hassigned.le
    rw [htype, Place.remaining] at hremaining
    simp only [List.length_append, List.length_cons] at hremaining hle
    omega
  obtain ⟨hr, htyped⟩ := htype' (Nat.le_refl _)
  obtain ⟨hi, middle', hread', hmiddle'⟩ := htarget' hr
  have hrest : placeAt (prior ++ assign :: (front ++ name :: behind)) prior.length =
      ⟨lastOf none prior, assign :: (front ++ name :: behind)⟩ := by
    rw [placeAt, List.take_left, List.drop_left]
  rw [← hmiddle', hrest] at htyped
  have hdrops := (Drops.ahead (some assign) front).passExpression hname hlist hbehind
    fun _ => endsInitializer_of_angle
  rw [scan_of_initializer (hreach' hi) hread' htyped hassign,
    scan_of_initializer hreach htarget htype hassign]
  exact congrArg (fun rest => (⟨recorded ++ names, .ok ()⟩ : Scan Unit) >>= fun _ => rest)
    (hdrops.scanAfterDeclarator hname hlist hwithin)

end Dropping

/-- A module with an exported declaration of variables: the tokens before it, the word `export` and
the word of the declaration, its declarators, and the tokens behind its semicolon. -/
structure ExportedVariables where
  prior : List Token
  word : Token
  keyword : Token
  list : List DeclaratorParts
  rest : List Token

namespace ExportedVariables

def listed (module : ExportedVariables) : List Token :=
  module.list.flatMap DeclaratorParts.tokens ++ module.rest

def tokens (module : ExportedVariables) : List Token :=
  module.prior ++ module.word :: module.keyword :: module.listed

def place (module : ExportedVariables) : Place :=
  ⟨lastOf none module.prior, module.word :: module.keyword :: module.listed⟩

/-- Whether the scan comes to the declaration with some names recorded, and which names its
declarators bind. -/
structure Declares (module : ExportedVariables) (recorded names : List String) : Prop where
  reaches : ∃ depth, Reaches module.tokens recorded depth module.place ∧
    startsExport (depthAfter depth module.word) module.place.previous module.word = true
  atVariables : atVariables module.place.next = true
  declaration : Declaration module.rest module.list names

variable {module : ExportedVariables} {recorded names : List String}

/-- The module exports what was recorded before the declaration, the names of all of its declarators
and what the tokens behind it export. -/
theorem Declares.exports (h : module.Declares recorded names) :
    (collect module.tokens).exports.toOption.map Bindings.names =
      match scan module.rest with
      | ⟨later, .ok ()⟩ => some (recorded ++ names ++ later).eraseDups
      | ⟨_, .error _⟩ => none := by
  obtain ⟨depth, hreach, hexport⟩ := h.reaches
  obtain ⟨before, semicolon, hsemicolon, hlist⟩ :=
    reads_declaration h.declaration (some module.keyword)
  obtain ⟨hlast, hread⟩ := reads_statement h.atVariables hlist
  have hafter := hreach.statement rfl hexport hread
  rw [depthAfter_of_startsExport hexport] at hafter
  have hexports := exports_of_reaches hafter
  rw [scanFrom_semicolon hsemicolon] at hexports
  exact hexports

def withInitializer (module : ExportedVariables) (before : List DeclaratorParts)
    (parts : DeclaratorParts) (after : List DeclaratorParts) (initialized : List Token) :
    ExportedVariables :=
  { module with list := before ++ { parts with initialized := initialized } :: after }

section Initializers

variable {before after : List DeclaratorParts} {parts : DeclaratorParts}

def upTo (module : ExportedVariables) (before : List DeclaratorParts) (parts : DeclaratorParts) :
    List Token :=
  module.prior ++ module.word :: module.keyword :: (before.flatMap DeclaratorParts.tokens ++
    (parts.pattern ++ (parts.asserted ++ parts.annotated)))

def pastInitializer (module : ExportedVariables) (parts : DeclaratorParts)
    (after : List DeclaratorParts) : List Token :=
  parts.mark :: (after.flatMap DeclaratorParts.tokens ++ module.rest)

theorem tokens_withInitializer (initialized : List Token) :
    (module.withInitializer before parts after initialized).tokens =
      module.upTo before parts ++ (initialized ++ module.pastInitializer parts after) := by
  simp [tokens, listed, withInitializer, upTo, pastInitializer, DeclaratorParts.tokens,
    DeclaratorParts.tail]

theorem tokens_of_list (h : module.list = before ++ parts :: after) :
    module.tokens = module.upTo before parts ++
      (parts.initialized ++ module.pastInitializer parts after) := by
  rw [← tokens_withInitializer, withInitializer, ← h]

/-- The last token of a module is behind the initializer, whichever it is. -/
theorem getLast?_withInitializer (h : module.list = before ++ parts :: after)
    (initialized : List Token) :
    (module.withInitializer before parts after initialized).tokens.getLast? =
      module.tokens.getLast? := by
  rw [tokens_withInitializer, tokens_of_list h, pastInitializer, ← List.append_assoc,
    List.getLast?_append_cons, ← List.append_assoc, List.getLast?_append_cons]

/-- The scan comes to each declarator of the declaration, with the tokens up to its initializer as
they are given. -/
theorem Declares.reachesDeclarator (h : module.Declares recorded names)
    (hparts : module.list = before ++ parts :: after) :
    ∃ recorded previous own, ReachesDeclarator module.tokens recorded
        ⟨previous, parts.tokens ++ (after.flatMap DeclaratorParts.tokens ++ module.rest)⟩ ∧
      parts.Declares own (after.flatMap DeclaratorParts.tokens ++ module.rest) ∧
      StartsWith [",", ";"] (module.pastInitializer parts after) := by
  obtain ⟨depth, hreach, hexport⟩ := h.reaches
  have hdeclaration := h.declaration
  have hfirst : ReachesDeclarator module.tokens recorded ⟨some module.keyword, module.listed⟩ :=
    .first hreach rfl hexport h.atVariables
  rw [listed, hparts] at hfirst
  rw [hparts] at hdeclaration
  exact reachesDeclarator_parts hdeclaration hfirst

/-- The modules that have one list of type arguments less in an initializer: it stands behind a
name, and no other angle bracket comes right behind it. -/
inductive Drops (module : ExportedVariables) : ExportedVariables → Prop where
  | intro {before after : List DeclaratorParts} {parts : DeclaratorParts} {assign name : Token}
      {front list behind : List Token} (hparts : module.list = before ++ parts :: after)
      (hinitialized : parts.initialized = assign :: (front ++ name :: (list ++ behind)))
      (hname : name.isAnyName = true) (hlist : IsTypeArguments list)
      (hbehind : behind.head?.any (·.isPunctuator "<") = false) :
      Drops module (module.withInitializer before parts after (assign :: (front ++ name :: behind)))

/-- A list of type arguments makes no difference to what is collected. -/
theorem Declares.collect_drop {module' : ExportedVariables} (h : module.Declares recorded names)
    (hbalanced : Balanced module.tokens) (hdrops : module.Drops module') :
    collect module'.tokens = collect module.tokens := by
  obtain @⟨before, after, parts, assign, name, front, list, behind, hparts, hinitialized, hname,
    hlist, hbehind⟩ := hdrops
  obtain ⟨recorded', previous, own, hreach, hdeclares, hmark⟩ := h.reachesDeclarator hparts
  obtain ⟨hlt, hread⟩ := hdeclares.reads previous
  have htype := hdeclares.passOptionalType hmark (lastOf previous parts.pattern)
  have hassigned := hdeclares.initialized
  rw [hinitialized] at htype hassigned
  cases hassigned with
  | present hassign hvalue =>
    have hpassed := passInitializer_clearBefore hassign hvalue hmark
    have hafter : (behind ++ module.pastInitializer parts after).head?.any (·.isPunctuator "<") =
        false := by
      cases behind with
      | nil => exact hmark.isPunctuator_eq_false "<" (by decide) none
      | cons token behind => exact hbehind
    apply collect_congr ?_ (getLast?_withInitializer hparts _)
    rw [tokens_of_list hparts, hinitialized] at hbalanced hreach ⊢
    rw [tokens_withInitializer]
    simp only [List.append_assoc, List.cons_append] at hbalanced hreach htype hpassed ⊢
    refine scan_drop hbalanced hreach hread htype hassign hname hlist hafter ?_
    rw [pastInitializer, hpassed]
    simp [Place.remaining]

end Initializers

end ExportedVariables

/-- Behind a name, an angle bracket leads to an index just if the tokens up to it are a list of type
arguments. So a bracket that starts none hides no comma: a module exports the names of all
declarators of an exported declaration, and a default is passed up to the comma behind it. And a
list in an initializer makes no difference to what is collected. -/
theorem typeArguments_exact {tokens : List Token} (hbalanced : Balanced tokens) :
    (∀ (i : Nat) (last : Place), (placeAt tokens i).previous.any Token.isAnyName = true →
      tokens[i]?.any (·.isPunctuator "<") = true →
        (typeArguments? (placeAt tokens i) = some last ↔
          ∃ e, i ≤ e ∧ e ≤ tokens.length ∧ IsTypeArguments (tokens.extract i e) ∧
            last = placeAt tokens e)) ∧
    (∀ (i : Nat) (assign : Token) (value behind : List Token),
      tokens.drop i = assign :: (value ++ behind) → assign.isPunctuator "=" = true →
        ClearBefore stopsDefault behind false value → StartsWith [",", "\x7d", "]"] behind →
          passDefault (placeAt tokens (i + 1)) = placeAt tokens (i + 1 + value.length)) ∧
    ∀ (module : ExportedVariables) (recorded names : List String), module.tokens = tokens →
      module.Declares recorded names →
        (collect tokens).exports.toOption.map Bindings.names =
          (match scan module.rest with
          | ⟨later, .ok ()⟩ => some (recorded ++ names ++ later).eraseDups
          | ⟨_, .error _⟩ => none) ∧
        ∀ module', module.Drops module' → collect module'.tokens = collect tokens := by
  refine ⟨?_, ?_, ?_⟩
  · intro i last hname hangle
    exact typeArguments?_placeAt_eq_some_iff hname hangle
  · intro i assign value behind htokens hassign hvalue hbehind
    have hassigned : placeAt tokens (i + 1) = ⟨some assign, value ++ behind⟩ :=
      @placeAt_append tokens [assign] (value ++ behind) i htokens
    have hpassed := placeAt_append (congrArg Place.rest hassigned)
    rw [hpassed, hassigned, passDefault_clearBefore hassign hvalue hbehind]
  · rintro module recorded names rfl h
    exact ⟨h.exports, fun module' hdrops => h.collect_drop hbalanced hdrops⟩

/-- The first declarator of the module below: a call, with some tokens behind the name. -/
def callingParts (list : List Token) : DeclaratorParts where
  pattern := [lineToken .name 14 "a"]
  asserted := []
  annotated := []
  initialized := lineToken .punctuator 16 "=" :: ([] ++ lineToken .name 18 "f" :: (list ++
    [lineToken .punctuator 25 "(", lineToken .name 26 "x", lineToken .punctuator 27 ")"]))
  mark := lineToken .punctuator 28 ","

/-- The second, which compares. -/
def comparingParts : DeclaratorParts where
  pattern := [lineToken .name 30 "d"]
  asserted := []
  annotated := []
  initialized := [lineToken .punctuator 32 "=", lineToken .name 34 "e",
    lineToken .punctuator 36 "<", lineToken .name 38 "g"]
  mark := lineToken .punctuator 39 ","

def plainParts : DeclaratorParts where
  pattern := [lineToken .name 41 "h"]
  asserted := []
  annotated := []
  initialized := [lineToken .punctuator 43 "=", lineToken .name 45 "i"]
  mark := lineToken .punctuator 46 ";"

def sampleTypeArguments : List Token :=
  [lineToken .punctuator 19 "<", lineToken .name 20 "b", lineToken .punctuator 21 ",",
    lineToken .name 23 "c", lineToken .punctuator 24 ">"]

/-- `export const a = f<b, c>(x), d = e < g, h = i;` -/
def callingVariables (list : List Token) : ExportedVariables where
  prior := []
  word := lineToken .name 1 "export"
  keyword := lineToken .name 8 "const"
  list := [] ++ callingParts list :: [comparingParts, plainParts]
  rest := []

theorem isTypeArguments_sample : IsTypeArguments sampleTypeArguments := by
  have hcloses : closedAngles (lineToken .punctuator 24 ">") ≠ 0 := by decide
  apply (isTypeArguments_cons_iff (by decide)).2
  repeat
    apply ClosesAngles.part (by decide) (by decide)
  exact ClosesAngles.last hcloses

/-- Behind the name in the second declarator stands no list: no type has the `=` of the third. -/
theorem not_startsList_sample : ¬ StartsList
    (lineToken .punctuator 36 "<" :: ([lineToken .name 38 "g"] ++
      comparingParts.mark :: (plainParts.tokens ++ []))) := by
  have hnamed : (some (lineToken .name 34 "e")).any Token.isAnyName = true := by decide
  rw [startsList_iff (by decide) hnamed]
  decide +kernel

theorem declares_sample : (callingVariables sampleTypeArguments).Declares [] ["a", "d", "h"] := by
  have hlast : plainParts.Declares ["h"] [] :=
    ⟨.name (by decide), .absent, .absent,
      .present (by decide) (.plain (by decide) (by decide) (by decide) .nil)⟩
  have hcompares : comparingParts.Declares ["d"] (plainParts.tokens ++ []) :=
    ⟨.name (by decide), .absent, .absent, .present (by decide) (.plain (by decide) (by decide)
      (by decide) (.compares (by decide) (fun _ => not_startsList_sample)
        (.plain (by decide) (by decide) (by decide) .nil)))⟩
  have hcalls : (callingParts sampleTypeArguments).Declares ["a"]
      (comparingParts.tokens ++ (plainParts.tokens ++ [])) := by
    refine ⟨.name (by decide), .absent, .absent, .present (by decide) ?_⟩
    have hinner : Balanced [lineToken .name 26 "x"] := .plain (by decide) (by decide) .nil
    exact .plain (by decide) (by decide) (by decide) (.arguments isTypeArguments_sample
      (.group (by decide) hinner (by decide) .nil))
  refine ⟨⟨0, .start, by decide⟩, by decide, ?_⟩
  exact .more hcalls (by decide) (.more hcompares (by decide) (.last hlast (by decide)))

theorem balanced_sample : Balanced (callingVariables sampleTypeArguments).tokens := by
  have hbehind : Balanced (lineToken .punctuator 28 "," ::
      (comparingParts.tokens ++ (plainParts.tokens ++ []))) := by
    repeat
      apply Balanced.plain (by decide) (by decide)
    exact Balanced.nil
  have hinner : Balanced [lineToken .name 26 "x"] := .plain (by decide) (by decide) .nil
  have hgroup := Balanced.group (by decide : (lineToken .punctuator 25 "(").isOpener = true) hinner
    (by decide : (lineToken .punctuator 27 ")").isCloser = true) hbehind
  repeat
    apply Balanced.plain (by decide) (by decide)
  exact hgroup

/-- The list is found behind the name, and makes no difference; the other bracket compares. -/
theorem typeArguments_exact_sample :
    typeArguments? (placeAt (callingVariables sampleTypeArguments).tokens 5) =
        some (placeAt (callingVariables sampleTypeArguments).tokens 10) ∧
      typeArguments? (placeAt (callingVariables sampleTypeArguments).tokens 17) = none ∧
      (collect (callingVariables sampleTypeArguments).tokens).exports.toOption.map Bindings.names =
        some ["a", "d", "h"] ∧
      collect (callingVariables []).tokens =
        collect (callingVariables sampleTypeArguments).tokens := by
  obtain ⟨hfound, -, hdeclared⟩ := typeArguments_exact balanced_sample
  obtain ⟨hexports, hdrops⟩ := hdeclared _ _ _ rfl declares_sample
  have hend : scan (callingVariables sampleTypeArguments).rest = ⟨[], .ok ()⟩ := scanFrom_end rfl 0
  refine ⟨?_, ?_, ?_, ?_⟩
  · apply (hfound 5 _ (by decide) (by decide)).2
    exact ⟨10, by decide, by decide, isTypeArguments_sample, rfl⟩
  · decide +kernel
  · rw [hexports, hend]
    decide
  · have hname : (lineToken .name 18 "f").isAnyName = true := by decide
    have hparts : (callingVariables sampleTypeArguments).list =
        [] ++ callingParts sampleTypeArguments :: [comparingParts, plainParts] := rfl
    exact hdrops (callingVariables []) (.intro hparts rfl hname isTypeArguments_sample rfl)

end RouteTable.Exports
