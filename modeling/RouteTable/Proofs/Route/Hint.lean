import RouteTable.Proofs.Route.Render
import RouteTable.Proofs.Route.Selection

/-!
The comment in which a table names the deferred exports of a route for the bundler. The names are
quoted as in a string literal, which keeps them apart but does not keep them in the comment: it ends
where it is meant to exactly if no name has the end of a comment in it, and otherwise within the
first name that has, whose rest is then part of the program.
-/

namespace RouteTable

open Script Script.Written TableRow

section Comment

variable {names earlier later : List String} {bad : String}

theorem toList_deferredThunk (hnames : names ≠ []) (specifier : String) :
    (Table.deferredThunk specifier names).toList = "() => import(/*".toList ++
      (hintBody names ++ '*' :: '/' :: ' ' :: (specifier.toList ++ [')'])) := by
  unfold Table.deferredThunk hintBody
  cases names with
  | nil => exact absurd rfl hnames
  | cons name names =>
    dsimp only
    generalize ", ".intercalate ((name :: names).map doubleQuoted) = listed
    simp

/-- Where a name stands in the comment: behind others, which end it only if they do so
themselves. -/
theorem hintBody_append_cons (earlier : List String) (bad : String) (later : List String) :
    ∃ front back, hintBody (earlier ++ bad :: later) =
        " webpackExports: [".toList ++ (front ++ ((doubleQuoted bad).toList ++
          (back ++ "] ".toList))) ∧
      ((∀ name ∈ earlier, ¬ EndsComment name.toList) →
        ∀ t, EndsComment (front ++ t) → EndsComment t) := by
  unfold hintBody
  cases earlier with
  | nil =>
    refine ⟨[], (later.map doubleQuoted).flatMap fun s => ',' :: ' ' :: s.toList, ?_,
      fun _ _ h => h⟩
    rw [List.nil_append, List.map_cons, toList_intercalate_comma]
    simp only [List.nil_append, List.append_assoc]
  | cons first others =>
    refine ⟨(doubleQuoted first).toList ++
        (((others.map doubleQuoted).flatMap fun s => ',' :: ' ' :: s.toList) ++ [',', ' ']),
      (later.map doubleQuoted).flatMap fun s => ',' :: ' ' :: s.toList, ?_, ?_⟩
    · rw [List.cons_append, List.map_cons, toList_intercalate_comma, List.map_append,
        List.flatMap_append, List.map_cons, List.flatMap_cons]
      simp only [List.append_assoc, List.cons_append, List.nil_append]
    · intro hearlier t h
      rw [List.append_assoc, List.append_assoc] at h
      rcases endsComment_of_doubleQuoted_append h with hfirst | hrest
      · exact absurd hfirst (hearlier first List.mem_cons_self)
      · have hothers := endsComment_of_listed
          (fun other hother => hearlier other (List.mem_cons_of_mem first hother)) hrest
        exact endsComment_of_append (by decide) hothers

/-- Up to the first name with the end of a comment in it, the comment goes on. It ends within that
name, and leaves the rest of it. -/
theorem commentLeaves_of_endsComment (hearlier : ∀ name ∈ earlier, ¬ EndsComment name.toList)
    {before after : List Char} (hbad : bad.toList = before ++ '*' :: '/' :: after)
    (hbefore : ¬ EndsComment before) (later : List String) (tail : List Char) :
    ∃ back, CommentLeaves (hintBody (earlier ++ bad :: later) ++ '*' :: '/' :: tail)
      (after.flatMap literalChar ++ '"' :: (back ++ '*' :: '/' :: tail)) := by
  obtain ⟨front, back, hbody, hfront⟩ := hintBody_append_cons earlier bad later
  have hword : " webpackExports: [".toList.all isInert = true := by decide
  have hquote : ['"'].all isInert = true := by decide
  have hstar : literalChar '*' = ['*'] := rfl
  have hslash : literalChar '/' = ['/'] := rfl
  generalize " webpackExports: [".toList = word at hbody hword
  have hgoesOn : ¬ EndsComment (word ++ (front ++ ('"' :: before.flatMap literalChar))) := by
    intro h
    have hquoted := hfront hearlier _ (endsComment_of_append hword h)
    exact hbefore (endsComment_of_flatMap_literalChar (endsComment_of_append hquote hquoted))
  refine ⟨back ++ "] ".toList, ?_⟩
  have hleaves := commentLeaves_append hgoesOn
    (after.flatMap literalChar ++ '"' :: (back ++ "] ".toList ++ '*' :: '/' :: tail))
  have htext : hintBody (earlier ++ bad :: later) ++ '*' :: '/' :: tail =
      word ++ (front ++ ('"' :: before.flatMap literalChar)) ++ '*' :: '/' ::
        (after.flatMap literalChar ++ '"' :: (back ++ "] ".toList ++ '*' :: '/' :: tail)) := by
    rw [hbody, toList_doubleQuoted, hbad, List.flatMap_append, List.flatMap_cons,
      List.flatMap_cons, hstar, hslash]
    simp only [List.append_assoc, List.cons_append, List.nil_append]
  rwa [htext]

/-- The comment ends where it is meant to exactly if no name in it ends it. -/
theorem commentLeaves_hint_iff (tail : List Char) :
    CommentLeaves (hintBody names ++ '*' :: '/' :: tail) tail ↔
      ∀ name ∈ names, ¬ EndsComment name.toList := by
  constructor
  · intro h name hname hends
    have hfound : (names.find? fun name => decide (EndsComment name.toList)).isSome = true := by
      rw [List.find?_isSome]
      exact ⟨name, hname, decide_eq_true hends⟩
    obtain ⟨bad, hfind⟩ := Option.isSome_iff_exists.1 hfound
    obtain ⟨hbad, earlier, later, rfl, hearlier⟩ := List.find?_eq_some_iff_append.1 hfind
    obtain ⟨before, after, hsplit, hbefore⟩ := exists_of_endsComment (of_decide_eq_true hbad)
    have hgood : ∀ name ∈ earlier, ¬ EndsComment name.toList := by
      intro name hname
      simpa using hearlier name hname
    obtain ⟨back, hleaves⟩ := commentLeaves_of_endsComment hgood hsplit hbefore later tail
    have hlength := congrArg List.length (h.unique hleaves)
    simp only [List.length_append, List.length_cons] at hlength
    omega
  · intro h
    exact commentLeaves_append (not_endsComment_hintBody h) tail

end Comment

section Reading

/-- Written tokens that are each read for themselves are read as what they stand for. -/
theorem readTokens_of_readable {source : String} {pieces : List Written}
    (htext : source.toList = text pieces) (hline : ['#', '!'].isPrefixOf source.toList = false)
    (hreadable : Readable [] pieces) (hnest : nestSymbols [] (pieces.map symbol) = some []) :
    ∃ tokens, readTokens source = .ok tokens ∧ tokens.map Token.symbol = pieces.map symbol := by
  have hsource : source.toList = text pieces ++ [] := by
    rw [htext, List.append_nil]
  rw [← nestAll_eq_nestSymbols] at hnest
  have hread := readTokens_text hsource hline (hreadable _ _) hnest (gapRead_spaces rfl rfl)
  exact ⟨_, hread, symbols_tokens _ _⟩

theorem readTokens_deferredThunk {names : List String} (hnames : names ≠ []) {specifier : String}
    (hspecifier : specifier.toList.any breaksLiteral = false)
    (hgood : ∀ name ∈ names, ¬ EndsComment name.toList) :
    ∃ tokens, readTokens (Table.deferredThunk (doubleQuoted specifier) names) = .ok tokens ∧
      tokens.map Token.symbol = [.mark "(", .mark ")", .mark "=>", .name "import", .mark "(",
        .text specifier, .mark ")"] := by
  have htext : (Table.deferredThunk (doubleQuoted specifier) names).toList =
      text (loadPieces "" names specifier) := by
    rw [toList_deferredThunk hnames]
    simp only [loadPieces, hint_eq, text_cons, text_nil]
    simp [word, mark, plain, literal]
  have hreadable : Readable [] (loadPieces "" names specifier) :=
    readable_loadPieces hgood hspecifier rfl (readable_nil [])
  apply readTokens_of_readable htext ?_ hreadable rfl
  rw [htext]
  rfl

end Reading

/-- The comment that names deferred exports for the bundler ends where it is meant to exactly if no
name that is wanted and exported has the end of a comment in it. Then the function that loads them
is an import of one string literal and nothing else. Otherwise the comment ends within the first
such name, and the rest of that name stands outside of it. -/
theorem deferredThunk_comment_iff (config : Config) (file : RouteModule) (bindings : Bindings)
    {route : PlannedRoute} (hroute : (planRoute config file bindings).outcome = .ok route)
    {url : Url} (hurl : Url.ofFile? file.absolute = some url)
    (hdeferred : route.plan.deferred ≠ []) :
    ∃ comment, (Table.deferredThunk (doubleQuoted url.deferred.text) route.plan.deferred).toList =
        "() => import(/*".toList ++ comment ∧
      (CommentLeaves comment (' ' :: ((doubleQuoted url.deferred.text).toList ++ [')'])) ↔
        ∀ name ∈ config.deferred, bindings.contains name = true → ¬ EndsComment name.toList) ∧
      ((∀ name ∈ config.deferred, bindings.contains name = true → ¬ EndsComment name.toList) →
        ∃ tokens,
          readTokens (Table.deferredThunk (doubleQuoted url.deferred.text) route.plan.deferred) =
            .ok tokens ∧
          tokens.map Token.symbol = [.mark "(", .mark ")", .mark "=>", .name "import", .mark "(",
            .text url.deferred.text, .mark ")"]) ∧
      ∀ earlier bad later before after, route.plan.deferred = earlier ++ bad :: later →
        (∀ name ∈ earlier, ¬ EndsComment name.toList) →
          bad.toList = before ++ '*' :: '/' :: after → ¬ EndsComment before →
            ∃ back, CommentLeaves comment (after.flatMap literalChar ++ '"' :: (back ++
              '*' :: '/' :: ' ' :: ((doubleQuoted url.deferred.text).toList ++ [')']))) := by
  obtain rfl : ⟨file, .make file.index bindings config.sync config.deferred⟩ = route := by
    cases hroute
    rfl
  have hselected : (∀ name ∈ config.deferred, bindings.contains name = true →
      ¬ EndsComment name.toList) ↔
        ∀ name ∈ (RoutePlan.make file.index bindings config.sync config.deferred).deferred,
          ¬ EndsComment name.toList := by
    simp only [RoutePlan.make, Bindings.mem_select, and_imp]
  have hspecifier := any_breaksLiteral_of_isAscii (Url.isAscii_text_ofFile? hurl).2
  refine ⟨_, toList_deferredThunk hdeferred _, ?_, ?_, ?_⟩
  · rw [hselected]
    exact commentLeaves_hint_iff _
  · rw [hselected]
    exact readTokens_deferredThunk hdeferred hspecifier
  · intro earlier bad later before after hplan hearlier hbad hbefore
    rw [hplan]
    exact commentLeaves_of_endsComment hearlier hbad hbefore later _

def loaderFile : RouteModule :=
  ⟨0, "index.tsx", .ofString "/r/index.tsx"⟩

/-- A name that ends no comment leaves nothing but the `import` to be read. -/
theorem deferredThunk_comment_iff_loader :
    ∃ route url tokens,
      (planRoute sampleConfig loaderFile (.ofList ["default", "loader"])).outcome = .ok route ∧
      Url.ofFile? loaderFile.absolute = some url ∧
      readTokens (Table.deferredThunk (doubleQuoted url.deferred.text) route.plan.deferred) =
        .ok tokens ∧
      tokens.map Token.symbol = [.mark "(", .mark ")", .mark "=>", .name "import", .mark "(",
        .text url.deferred.text, .mark ")"] := by
  have hurl : (Url.ofFile? loaderFile.absolute).isSome = true := by decide +kernel
  obtain ⟨url, hurl⟩ := Option.isSome_iff_exists.1 hurl
  have hdeferred : (RoutePlan.make 0 (.ofList ["default", "loader"]) sampleConfig.sync
      sampleConfig.deferred).deferred ≠ [] := by
    decide +kernel
  have hgood : ∀ name ∈ sampleConfig.deferred,
      (Bindings.ofList ["default", "loader"]).contains name = true →
        ¬ EndsComment name.toList := by
    decide +kernel
  obtain ⟨-, -, -, hread, -⟩ :=
    deferredThunk_comment_iff sampleConfig loaderFile (.ofList ["default", "loader"]) rfl hurl
      hdeferred
  obtain ⟨tokens, htokens, hsymbols⟩ := hread hgood
  exact ⟨_, url, tokens, rfl, hurl, htokens, hsymbols⟩

section Hostile

open Exports

/-- A name that ends the comment it is listed in, goes on as a part of the program and opens another
comment. -/
def hostileName : String := "*/evil(),/*"

def hostileSource : String := "const x = 1; export \x7b x as \"*/evil(),/*\" \x7d;"

def hostileWritten : List Written :=
  [plain .name "" "const", plain .name " " "x", plain .punctuator " " "=", plain .number " " "1",
    plain .punctuator "" ";", plain .name " " "export", plain .punctuator " " "\x7b",
    plain .name " " "x", plain .name " " "as", .literal [' '] hostileName,
    plain .punctuator " " "\x7d", plain .punctuator "" ";"]

theorem exports_hostileSource :
    (collectSource hostileSource).exports = .ok (.ofList [hostileName]) := by
  have hplain : writesPlainly hostileSource hostileWritten [] = true := by decide
  have hrecorded : (collect (tokens (.start hostileSource) hostileWritten)).recorded =
      [hostileName] := by
    decide +kernel
  have hfailure : (collect (tokens (.start hostileSource) hostileWritten)).failure = none := by
    decide +kernel
  rw [collectSource, readTokens_of_writesPlainly hplain]
  simp only [Inventory.exports, hfailure, hrecorded]

/-- The tokens of the function for that name: those of the name are among them, and there are two
comments. -/
def hostilePieces (specifier : String) : List Written :=
  [mark "" "(", mark "" ")", mark " " "=>", word " " "import", mark "" "(",
    ⟨"/* webpackExports: [\"*/".toList, "evil".toList, .name, "evil"⟩, mark "" "(", mark "" ")",
    mark "" ",", .literal "/*\"] */ ".toList specifier, mark "" ")"]

theorem readable_hostilePieces {specifier : String}
    (hspecifier : specifier.toList.any breaksLiteral = false) :
    Readable [] (hostilePieces specifier) := by
  have hfirst : ∀ {rest}, settled rest = true →
      GapRead ('/' :: '*' :: " webpackExports: [\"".toList ++ '*' :: '/' :: []) rest :=
    gapRead_comment (by decide) rfl
  have hsecond : ∀ {rest}, settled rest = true →
      GapRead ('/' :: '*' :: "\"] ".toList ++ '*' :: '/' :: [' ']) rest :=
    gapRead_comment (by decide) rfl
  apply Readable.mark _ rfl (by decide) rfl
  apply Readable.mark _ rfl (by decide) rfl
  apply Readable.punctuator _ rfl rfl rfl rfl rfl
  apply Readable.name _ (by decide) rfl rfl
  apply Readable.mark _ rfl (by decide) rfl
  apply Readable.cons
  · apply Readable.mark _ rfl (by decide) rfl
    apply Readable.mark _ rfl (by decide) rfl
    apply Readable.mark _ rfl (by decide) rfl
    apply Readable.literal _ (hsecond (settled_literal _ _)) hspecifier
    exact (readable_nil []).mark rfl (by decide) rfl
  · have hescape : some '(' ≠ some '\\' := by decide
    exact legible_name (hfirst rfl) rfl rfl rfl hescape

def hostileFile : RouteModule :=
  ⟨0, "a.ts", .ofString "/r/a.ts"⟩

def hostileConfig : Config :=
  { Config.standard with deferred := [hostileName] }

/-- The tokens of the function are not those of an import of one string literal: a call that the
name spells stands among them, as its comment ends within the name. -/
theorem deferredThunk_hostileName :
    ∃ bindings route url tokens,
      (collectSource hostileSource).exports = .ok bindings ∧
      (planRoute hostileConfig hostileFile bindings).outcome = .ok route ∧
      Url.ofFile? hostileFile.absolute = some url ∧
      readTokens (Table.deferredThunk (doubleQuoted url.deferred.text) route.plan.deferred) =
        .ok tokens ∧
      tokens.map Token.symbol = [.mark "(", .mark ")", .mark "=>", .name "import", .mark "(",
        .name "evil", .mark "(", .mark ")", .mark ",", .text url.deferred.text, .mark ")"] ∧
      tokens.map Token.symbol ≠ [.mark "(", .mark ")", .mark "=>", .name "import", .mark "(",
        .text url.deferred.text, .mark ")"] := by
  have hurl : (Url.ofFile? hostileFile.absolute).map (·.deferred.text) =
      some "file:///r/a.ts?async" := by
    decide +kernel
  obtain ⟨url, hurl, htext⟩ := Option.map_eq_some_iff.1 hurl
  have hdeferred : (Bindings.ofList [hostileName]).select [hostileName] = [hostileName] := by
    decide +kernel
  have hpieces : (Table.deferredThunk (doubleQuoted "file:///r/a.ts?async") [hostileName]).toList =
      text (hostilePieces "file:///r/a.ts?async") := by
    decide +kernel
  have hreadable := readable_hostilePieces (any_breaksLiteral_of_isAscii
    (htext ▸ (Url.isAscii_text_ofFile? hurl).2))
  obtain ⟨tokens, hread, hsymbols⟩ := readTokens_of_readable hpieces (by decide +kernel) hreadable
    (by decide +kernel)
  refine ⟨_, _, url, tokens, exports_hostileSource, rfl, hurl, ?_, ?_, ?_⟩
  · rw [htext]
    simp only [RoutePlan.make, hostileConfig, hdeferred]
    exact hread
  · rw [hsymbols, htext]
    rfl
  · rw [hsymbols, htext]
    decide +kernel

end Hostile

end RouteTable
