import RouteTable.Proofs.Exports.Annotation
import RouteTable.Proofs.Script.Plain

/-!
The initializer of an annotated declarator. An `=` right behind the angle bracket that closes the
annotation is one token with it, which closes nothing: the brackets stay open, and the annotation
goes on over the initializer and everything behind it.
-/

namespace RouteTable.Exports

open Script

/-- The token that a closing angle bracket and an `=` right behind it are read as. -/
def withAssign (closer : Token) : Token :=
  { closer with value := closer.value ++ "=" }

/-- Where a declarator ends whose annotation goes on from a place with open angle brackets. -/
def passOpenType (angles : Nat) (place : Place) : Place :=
  let annotated := passAnnotatedType angles place
  if annotated.isPunctuator "=" then passInitializer annotated.next else annotated

/-- The exports of a module in which some names are recorded before a scan, unless that fails. -/
def exportsAfter (recorded : List String) (rest : Scan Unit) : Option Bindings :=
  match rest with
  | ⟨names, .ok ()⟩ => some (.ofList (recorded ++ names))
  | ⟨_, .error _⟩ => none

theorem exportsAfter_bind (recorded names : List String) (rest : Scan Unit) :
    exportsAfter recorded ((⟨names, .ok ()⟩ : Scan Unit) >>= fun _ => rest) =
      exportsAfter (recorded ++ names) rest := by
  obtain ⟨more, outcome⟩ := rest
  cases outcome with
  | error e => rfl
  | ok done =>
    simp only [Reporting.bind_ok, exportsAfter, List.append_assoc]

theorem exports_collect (tokens : List Token) :
    (collect tokens).exports.toOption = exportsAfter [] (scan tokens) := by
  cases hscan : scan tokens with
  | mk names outcome =>
    cases outcome with
    | error e =>
      simp only [collect, hscan]
      rfl
    | ok done =>
      simp only [collect, hscan]
      rfl

theorem exports_collectSource {source : String} {tokens : List Token}
    (hread : readTokens source = .ok tokens) :
    (collectSource source).exports.toOption = exportsAfter [] (scan tokens) := by
  rw [collectSource, hread]
  exact exports_collect tokens

/-- The exports of a module, from a declarator that its scan reaches. -/
theorem exports_of_reachesDeclarator {source : String} {tokens : List Token}
    (hread : readTokens source = .ok tokens) {recorded : List String} {place : Place}
    (hreach : ReachesDeclarator tokens recorded place) {name : Token}
    (hfirst : place.first? = some name) (hname : name.isAnyName = true) :
    (collectSource source).exports.toOption =
      exportsAfter (recorded ++ [name.value])
        (scanAfterDeclarator (passDeclaratorTail place.next)) := by
  rw [exports_collectSource hread, scan_of_reachesDeclarator hreach, exportsAfter_bind,
    scanDeclarators_name hfirst hname, exportsAfter_bind, List.nil_append]

theorem passDeclaratorTail_typed {colon : Token} (hcolon : colon.isPunctuator ":" = true)
    (previous : Option Token) (rest : List Token) :
    passDeclaratorTail ⟨previous, colon :: rest⟩ = passOpenType 0 ⟨some colon, rest⟩ := by
  have hasserted : Place.isPunctuator ⟨previous, colon :: rest⟩ "!" = false := by
    obtain ⟨hkind, hvalue⟩ := kind_of_isPunctuator hcolon
    simp only [Place.isPunctuator, Place.first?, List.head?_cons, Option.any_some,
      Token.isPunctuator, hkind, hvalue]
    decide
  have hannotated : Place.isPunctuator ⟨previous, colon :: rest⟩ ":" = true := hcolon
  simp only [passDeclaratorTail, passOpenType, hasserted, hannotated, Bool.false_eq_true,
    if_false, if_true, Place.next]

/-- Passing on over tokens of an annotation. -/
theorem passOpenType_spans {m n : Nat} {tokens : List Token} (h : Spans m tokens n)
    (previous : Option Token) (rest : List Token) :
    passOpenType m ⟨previous, tokens ++ rest⟩ =
      passOpenType n ⟨lastOf previous tokens, rest⟩ := by
  simp only [passOpenType, passAnnotatedType_spans h]

/-- With no angle bracket open, an `=` ends the annotation and starts the initializer. -/
theorem passOpenType_assign {assign : Token} (hassign : assign.isPunctuator "=" = true)
    (previous : Option Token) (rest : List Token) :
    passOpenType 0 ⟨previous, assign :: rest⟩ = passInitializer ⟨some assign, rest⟩ := by
  obtain ⟨hkind, hvalue⟩ := kind_of_isPunctuator hassign
  have hstatement : ¬ ((0 : Nat) = 0 && opensStatement assign) = true := by
    rw [opensStatement_of_punctuator hkind, Bool.and_false]
    exact Bool.false_ne_true
  have hopener : ¬ assign.isOpener = true := by
    rw [Token.isOpener, hkind, hvalue]
    decide
  have hless : ¬ assign.isPunctuator "<" = true := by
    rw [Token.isPunctuator, hkind, hvalue]
    decide
  have hangle : ¬ closedAngles assign ≠ 0 := by
    intro h
    have hclosing := (closedAngles_ne_zero h).2
    rw [hvalue] at hclosing
    exact absurd hclosing (by decide)
  have hpassed : passAnnotatedType 0 ⟨previous, assign :: rest⟩ = ⟨previous, assign :: rest⟩ := by
    rw [passAnnotatedType_cons, if_neg hstatement, if_neg hopener, if_neg hless, if_neg hangle,
      if_pos (by simp [hassign])]
  have hat : Place.isPunctuator ⟨previous, assign :: rest⟩ "=" = true := hassign
  simp only [passOpenType, hpassed, hat, if_true, Place.next]

/-- A bracket with an `=` at its end closes nothing. -/
theorem isTypePart_withAssign {closer : Token} (hcloser : closedAngles closer ≠ 0) :
    isTypePart (withAssign closer) = true := by
  obtain ⟨hkind, hvalue | hvalue | hvalue⟩ := closedAngles_ne_zero hcloser
  all_goals
    simp only [isTypePart, withAssign, Token.isOpener, Token.isCloser, Token.isPunctuator,
      closedAngles, hkind, hvalue]
    decide

section Abutting

variable {typed after after' : List Token} {colon closer assign : Token}

/-- An `=` apart from the bracket that closes the annotation starts the initializer. -/
theorem passDeclaratorTail_apart (hcolon : colon.isPunctuator ":" = true)
    (hspans : Spans 0 typed (closedAngles closer)) (hcloser : closedAngles closer ≠ 0)
    (hassign : assign.isPunctuator "=" = true) (previous : Option Token) :
    passDeclaratorTail ⟨previous, colon :: (typed ++ closer :: assign :: after)⟩ =
      passInitializer ⟨some assign, after⟩ := by
  have hclosed : Spans (closedAngles closer) [closer] 0 := by
    apply Spans.closes hcloser (Nat.le_refl _)
    rw [Nat.sub_self]
    exact Spans.nil
  have hlast := passOpenType_spans hclosed (lastOf (some colon) typed) (assign :: after)
  rw [passDeclaratorTail_typed hcolon, passOpenType_spans hspans]
  rw [List.singleton_append] at hlast
  rw [hlast, passOpenType_assign hassign]

/-- An `=` right behind the bracket leaves the annotation open. -/
theorem passDeclaratorTail_abutting (hcolon : colon.isPunctuator ":" = true)
    (hspans : Spans 0 typed (closedAngles closer)) (hcloser : closedAngles closer ≠ 0)
    (previous : Option Token) :
    passDeclaratorTail ⟨previous, colon :: (typed ++ withAssign closer :: after')⟩ =
      passOpenType (closedAngles closer) ⟨some (withAssign closer), after'⟩ := by
  have hopen : Spans (closedAngles closer) [withAssign closer] (closedAngles closer) := by
    apply Spans.part (isTypePart_withAssign hcloser) _ Spans.nil
    intro hzero
    exact absurd hzero hcloser
  have hlast := passOpenType_spans hopen (lastOf (some colon) typed) after'
  rw [passDeclaratorTail_typed hcolon, passOpenType_spans hspans]
  rw [List.singleton_append] at hlast
  rw [hlast, lastOf_cons, lastOf_nil]

/-- While angle brackets stay open, an annotation goes on to the end of the module. -/
theorem passOpenType_end {m n : Nat} (h : Spans m after' n) (previous : Option Token) :
    passOpenType m ⟨previous, after'⟩ = ⟨lastOf previous after', []⟩ := by
  have hpassed := passOpenType_spans h previous []
  rw [List.append_nil] at hpassed
  rw [hpassed, passOpenType]
  simp only [passAnnotatedType_nil]
  rfl

theorem scanAfterDeclarator_end (previous : Option Token) :
    scanAfterDeclarator ⟨previous, []⟩ = pure () := by
  rw [scanAfterDeclarator, if_neg (by exact Bool.false_ne_true)]
  exact scanFrom_end rfl 0

end Abutting

/-- An `=` that stands right behind the closing bracket of an exported declarator's annotation gives
the same exports as one behind a space exactly if the annotation, going on with as many angle
brackets open as that bracket was to close, ends where the same is exported from. If all that
follows can be part of the annotation, none of it is exported. -/
theorem exports_abutting_iff {before behind : String} {apart abutting : List Token}
    (hapart : readTokens (before ++ " =" ++ behind) = .ok apart)
    (habutting : readTokens (before ++ "=" ++ behind) = .ok abutting)
    {recorded : List String} {previous : Option Token} {name colon closer assign : Token}
    {typed after after' : List Token}
    (hreach : ReachesDeclarator apart recorded
      ⟨previous, name :: colon :: (typed ++ closer :: assign :: after)⟩)
    (hreach' : ReachesDeclarator abutting recorded
      ⟨previous, name :: colon :: (typed ++ withAssign closer :: after')⟩)
    (hname : name.isAnyName = true) (hcolon : colon.isPunctuator ":" = true)
    (hspans : Spans 0 typed (closedAngles closer)) (hcloser : closedAngles closer ≠ 0)
    (hassign : assign.isPunctuator "=" = true) :
    ((collectSource (before ++ "=" ++ behind)).exports.toOption =
        (collectSource (before ++ " =" ++ behind)).exports.toOption ↔
      exportsAfter (recorded ++ [name.value]) (scanAfterDeclarator
          (passOpenType (closedAngles closer) ⟨some (withAssign closer), after'⟩)) =
        exportsAfter (recorded ++ [name.value]) (scanAfterDeclarator
          (passInitializer ⟨some assign, after⟩))) ∧
    ∀ n, Spans (closedAngles closer) after' n →
      (collectSource (before ++ "=" ++ behind)).exports.toOption =
        some (.ofList (recorded ++ [name.value])) := by
  have hexports := exports_of_reachesDeclarator hapart hreach rfl hname
  have hexports' := exports_of_reachesDeclarator habutting hreach' rfl hname
  simp only [Place.next] at hexports hexports'
  rw [passDeclaratorTail_apart hcolon hspans hcloser hassign] at hexports
  rw [passDeclaratorTail_abutting hcolon hspans hcloser] at hexports'
  constructor
  · rw [hexports, hexports']
  · intro n hopen
    rw [hexports', passOpenType_end hopen, scanAfterDeclarator_end, Reporting.pure_eq,
      exportsAfter, List.append_nil]

deriving instance DecidableEq for Place

def lineToken (kind : TokenClass) (column : Nat) (value : String) : Token :=
  ⟨kind, value, ⟨1, column⟩, false⟩

def annotatedText : String := "export const a: Array<string>"

def furtherText : String := " x, b = y; export const c = z;"

def sampleType : List Token :=
  [lineToken .name 17 "Array", lineToken .punctuator 22 "<", lineToken .name 23 "string"]

def sampleCloser : Token := lineToken .punctuator 29 ">"

def furtherTokens (column : Nat) : List Token :=
  [lineToken .name (column + 2) "x", lineToken .punctuator (column + 3) ",",
    lineToken .name (column + 5) "b", lineToken .punctuator (column + 7) "=",
    lineToken .name (column + 9) "y", lineToken .punctuator (column + 10) ";",
    lineToken .name (column + 12) "export", lineToken .name (column + 19) "const",
    lineToken .name (column + 25) "c", lineToken .punctuator (column + 27) "=",
    lineToken .name (column + 29) "z", lineToken .punctuator (column + 30) ";"]

def sampleTokens (rest : List Token) : List Token :=
  lineToken .name 1 "export" :: lineToken .name 8 "const" :: lineToken .name 14 "a" ::
    lineToken .punctuator 15 ":" :: rest

theorem readTokens_apart : readTokens (annotatedText ++ " =" ++ furtherText) =
    .ok (sampleTokens (sampleType ++
      sampleCloser :: lineToken .punctuator 31 "=" :: furtherTokens 31)) := by
  have hplain : Written.writesPlainly (annotatedText ++ " =" ++ furtherText)
      [.plain .name "" "export", .plain .name " " "const", .plain .name " " "a",
        .plain .punctuator "" ":", .plain .name " " "Array", .plain .punctuator "" "<",
        .plain .name "" "string", .plain .punctuator "" ">", .plain .punctuator " " "=",
        .plain .name " " "x", .plain .punctuator "" ",", .plain .name " " "b",
        .plain .punctuator " " "=", .plain .name " " "y", .plain .punctuator "" ";",
        .plain .name " " "export", .plain .name " " "const", .plain .name " " "c",
        .plain .punctuator " " "=", .plain .name " " "z", .plain .punctuator "" ";"] [] =
      true := by
    decide +kernel
  rw [Written.readTokens_of_writesPlainly hplain]
  exact congrArg Except.ok (by decide +kernel)

theorem readTokens_abutting : readTokens (annotatedText ++ "=" ++ furtherText) =
    .ok (sampleTokens (sampleType ++ withAssign sampleCloser :: furtherTokens 30)) := by
  have hplain : Written.writesPlainly (annotatedText ++ "=" ++ furtherText)
      [.plain .name "" "export", .plain .name " " "const", .plain .name " " "a",
        .plain .punctuator "" ":", .plain .name " " "Array", .plain .punctuator "" "<",
        .plain .name "" "string", .plain .punctuator "" ">=", .plain .name " " "x",
        .plain .punctuator "" ",", .plain .name " " "b", .plain .punctuator " " "=",
        .plain .name " " "y", .plain .punctuator "" ";", .plain .name " " "export",
        .plain .name " " "const", .plain .name " " "c", .plain .punctuator " " "=",
        .plain .name " " "z", .plain .punctuator "" ";"] [] = true := by
    decide +kernel
  rw [Written.readTokens_of_writesPlainly hplain]
  exact congrArg Except.ok (by decide +kernel)

theorem reachesDeclarator_sample (rest : List Token) : ReachesDeclarator (sampleTokens rest) []
    ⟨some (lineToken .name 8 "const"),
      lineToken .name 14 "a" :: lineToken .punctuator 15 ":" :: rest⟩ :=
  reachesDeclarator_first (by decide) rfl

theorem spans_sampleType : Spans 0 sampleType (closedAngles sampleCloser) := by
  apply Spans.part (by decide) (fun _ => by decide)
  apply Spans.opens (by decide)
  apply Spans.part (by decide) (fun _ => by decide)
  exact Spans.nil

theorem spans_furtherTokens : Spans 1 (furtherTokens 30) 1 := by
  repeat
    apply Spans.part (by decide)
    · intro hzero
      cases hzero
  exact Spans.nil

/-- Right behind the bracket, the `=` hides the declarator and the statement that follow. -/
theorem exports_abutting_hides :
    (collectSource (annotatedText ++ "=" ++ furtherText)).exports.toOption =
      some (.ofList ["a"]) :=
  (exports_abutting_iff readTokens_apart readTokens_abutting (reachesDeclarator_sample _)
    (reachesDeclarator_sample _) (by decide) (by decide) spans_sampleType (by decide)
    (by decide)).2 1 spans_furtherTokens

/-- Behind a space it starts an initializer, and what follows is exported. -/
theorem exports_apart_ne_abutting :
    (collectSource (annotatedText ++ " =" ++ furtherText)).exports.toOption =
        some (.ofList ["a", "b", "c"]) ∧
      (collectSource (annotatedText ++ "=" ++ furtherText)).exports.toOption =
        some (.ofList ["a"]) := by
  constructor
  · have hfirst : passDeclaratorTail ⟨some (lineToken .name 14 "a"),
        lineToken .punctuator 15 ":" :: (sampleType ++
          sampleCloser :: lineToken .punctuator 31 "=" :: furtherTokens 31)⟩ =
          ⟨some (lineToken .name 33 "x"), (furtherTokens 31).drop 1⟩ := by
      decide +kernel
    have hsecond : passDeclaratorTail ⟨some (lineToken .name 36 "b"), (furtherTokens 31).drop 3⟩ =
        ⟨some (lineToken .name 40 "y"), (furtherTokens 31).drop 5⟩ := by
      decide +kernel
    have hthird : passDeclaratorTail ⟨some (lineToken .name 56 "c"), (furtherTokens 31).drop 9⟩ =
        ⟨some (lineToken .name 60 "z"), (furtherTokens 31).drop 11⟩ := by
      decide +kernel
    have hnext : scanAfterDeclarator ⟨some (lineToken .name 33 "x"), (furtherTokens 31).drop 1⟩ =
        scanDeclarators ⟨some (lineToken .punctuator 34 ","), (furtherTokens 31).drop 2⟩ := rfl
    have hstatement : scanAfterDeclarator
        ⟨some (lineToken .name 40 "y"), (furtherTokens 31).drop 5⟩ =
          scanDeclarators ⟨some (lineToken .name 50 "const"), (furtherTokens 31).drop 8⟩ := by
      rw [scanAfterDeclarator, if_neg (by decide), scanFrom_pass rfl (by decide)]
      exact scanFrom_variables rfl (by decide) (by decide)
    have hend : scanAfterDeclarator ⟨some (lineToken .name 60 "z"), (furtherTokens 31).drop 11⟩ =
        pure () := by
      rw [scanAfterDeclarator, if_neg (by decide), scanFrom_pass rfl (by decide)]
      exact scanFrom_end rfl _
    have hexports := exports_of_reachesDeclarator readTokens_apart (reachesDeclarator_sample _)
      rfl (by decide)
    simp only [Place.next] at hexports
    rw [hexports, hfirst, hnext, scanDeclarators_name rfl (by decide), exportsAfter_bind]
    simp only [Place.next, furtherTokens, List.drop] at hsecond hstatement hthird hend ⊢
    rw [hsecond, hstatement, scanDeclarators_name rfl (by decide), exportsAfter_bind]
    simp only [Place.next] at hthird hend ⊢
    rw [hthird, hend]
    rfl
  · have hexports := exports_of_reachesDeclarator readTokens_abutting (reachesDeclarator_sample _)
      rfl (by decide)
    have hpassed : passDeclaratorTail ⟨some (lineToken .name 14 "a"),
        lineToken .punctuator 15 ":" :: (sampleType ++
          withAssign sampleCloser :: furtherTokens 30)⟩ =
          ⟨some (lineToken .punctuator 60 ";"), []⟩ := by
      decide +kernel
    simp only [Place.next] at hexports
    rw [hexports, hpassed, scanAfterDeclarator_end]
    rfl

end RouteTable.Exports
