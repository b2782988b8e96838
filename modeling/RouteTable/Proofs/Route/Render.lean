import RouteTable.Pass.Generation
import RouteTable.Proofs.Exports.Enclosed
import RouteTable.Proofs.Route.Aliases
import RouteTable.Proofs.Route.Reading
import RouteTable.Proofs.Url.Ascii

/-!
The module of a route table is read back as what it was written for: its tokens are those of the
outline, and scanning it for exports finds the default export alone.
-/

namespace RouteTable

open Script Exports

namespace TableRow

/-- An import starts no export statement, as its alias is not the word for one. -/
theorem passedDepth_importSymbols {row : TableRow}
    (haliases : ∀ shortened ∈ row.plan.sync.aliases, shortened ≠ "export") :
    passedDepth 0 row.importSymbols = some 0 := by
  unfold importSymbols
  rcases hsync : row.plan.sync with shortened | (_ | ⟨pair, pairs⟩)
  · have hne : shortened ≠ "export" := by
      apply haliases
      rw [hsync]
      exact List.mem_singleton_self _
    have halias : (tokenOf (.name shortened)).isName "export" = false := by
      simpa [tokenOf, Symbol.name, Token.isName] using hne
    simp only [passedDepth]
    rw [halias]
    rfl
  · rfl
  · have hjoined : Nested [.name "as"] := fun _ => rfl
    have hpairs := nested_pairSymbols hjoined (pair :: pairs)
    have hinside := passedDepth_append (passedDepth_of_nested hpairs 0)
      [.mark "\x7d", .name "from", .text row.specifier, .mark ";"]
    dsimp only
    rw [List.append_assoc]
    exact hinside

/-- Imports end with a semicolon. -/
theorem getLast?_importSymbols (row : TableRow) :
    ∀ symbol ∈ row.importSymbols.getLast?, symbol = .mark ";" := by
  unfold importSymbols
  rcases row.plan.sync with shortened | (_ | ⟨pair, pairs⟩)
  · intro symbol h
    cases h
    rfl
  · intro symbol h
    cases h
  · intro symbol h
    dsimp only at h
    rw [List.getLast?_append] at h
    cases h
    rfl

theorem getLast?_imports (rows : List TableRow) :
    ∀ symbol ∈ (rows.flatMap importSymbols).getLast?, symbol = .mark ";" := by
  induction rows with
  | nil =>
    intro symbol h
    cases h
  | cons row rows ih =>
    intro symbol h
    rw [List.flatMap_cons, List.getLast?_append, Option.mem_def, Option.or_eq_some_iff] at h
    rcases h with h | ⟨-, h⟩
    · exact ih symbol h
    · exact getLast?_importSymbols row symbol h

theorem passedDepth_table (rows : List TableRow) :
    passedDepth 0 ([.mark "["] ++ (rows.flatMap entrySymbols ++ [.mark "]", .mark ";"])) =
      some 0 := by
  have hentries : Nested (rows.flatMap entrySymbols) :=
    Nested.flatMap fun row _ => nested_entrySymbols row
  exact passedDepth_append (passedDepth_of_nested hentries 0) [.mark "]", .mark ";"]

/-- Scanning tokens of the outline finds the default export alone. -/
theorem scan_moduleSymbols {rows : List TableRow} {tokens : List Token}
    (htokens : tokens.map Token.symbol = moduleSymbols rows)
    (haliases : ∀ row ∈ rows, ∀ shortened ∈ row.plan.sync.aliases, shortened ≠ "export") :
    scan tokens = ⟨["default"], .ok ()⟩ := by
  have hsplit : moduleSymbols rows = rows.flatMap importSymbols ++
      (.name "export" :: .name "default" ::
        ([.mark "["] ++ (rows.flatMap entrySymbols ++ [.mark "]", .mark ";"]))) := by
    simp [moduleSymbols]
  rw [hsplit, List.map_eq_append_iff] at htokens
  obtain ⟨before, others, rfl, hbefore, hothers⟩ := htokens
  obtain ⟨start, others, rfl, hstart, hothers⟩ := List.map_eq_cons_iff.1 hothers
  obtain ⟨word, after, rfl, hword, hafter⟩ := List.map_eq_cons_iff.1 hothers
  have himports : passedDepth 0 (rows.flatMap importSymbols) = some 0 :=
    passedDepth_flatMap fun row hrow => passedDepth_importSymbols (haliases row hrow)
  have haccess : before.getLast?.any Token.isAccess = false := by
    cases hlast : before.getLast? with
    | none => rfl
    | some token =>
      have hsymbol : token.symbol = .mark ";" := by
        apply getLast?_imports rows
        rw [← hbefore, List.getLast?_map, hlast]
        rfl
      simp only [Token.symbol, Symbol.mark, Prod.mk.injEq] at hsymbol
      simp [Token.isAccess, Token.isPunctuator, hsymbol]
  have hisName : ∀ {token : Token} {v : String},
      token.symbol = .name v → token.isName v = true := by
    intro token v h
    simp only [Token.symbol, Symbol.name, Prod.mk.injEq] at h
    simp [Token.isName, h]
  have htable := passedDepth_table rows
  rw [← hafter] at htable
  rw [← hbefore] at himports
  exact scan_default himports haccess (hisName hstart) (hisName hword) htable

end TableRow

namespace Table

theorem outcome_entry (scheme : PatternScheme) {route : PlannedRoute}
    (hurl : (Url.ofFile? route.file.absolute).isSome = true) :
    (entry scheme route).outcome = .ok (route.row scheme).entry := by
  obtain ⟨url, hurl⟩ := Option.isSome_iff_exists.1 hurl
  have hrow : (route.row scheme).entry =
      ⟨importStatement? (doubleQuoted url.text) route.plan.sync,
        entryText (scheme.apply route.file.dottedRelative) route.plan
          (doubleQuoted url.deferred.text)⟩ := by
    simp only [PlannedRoute.row, TableRow.entry, hurl, Option.map_some, Option.getD_some]
  rw [hrow, entry]
  simp only [hurl]
  cases importStatement? (doubleQuoted url.text) route.plan.sync with
  | none => rfl
  | some text => rfl

theorem outcome_entries {scheme : PatternScheme} {routes : List PlannedRoute}
    (hurl : ∀ route ∈ routes, (Url.ofFile? route.file.absolute).isSome = true) :
    (entries scheme routes).outcome = .ok (routes.map fun route => (route.row scheme).entry) := by
  induction routes with
  | nil => rfl
  | cons route rest ih =>
    have hfirst := outcome_entry scheme (hurl route List.mem_cons_self)
    have hrest := ih fun other hother => hurl other (List.mem_cons_of_mem _ hother)
    rw [entries, Reporting.outcome_bind_of_ok hfirst, Reporting.outcome_bind_of_ok hrest]
    rfl

/-- Routes without a repeated alias, whose files all have URLs, have a module. -/
theorem outcome_render {scheme : PatternScheme} {routes : List PlannedRoute}
    (hrepeated : repeated? [] (owners routes) = none)
    (hurl : ∀ route ∈ routes, (Url.ofFile? route.file.absolute).isSome = true) :
    (render scheme routes).outcome =
      .ok (moduleText ((routes.map (PlannedRoute.row scheme)).map TableRow.entry)) := by
  rw [render, hrepeated]
  dsimp only
  rw [Reporting.outcome_bind_of_ok (outcome_entries hurl), List.map_map]
  rfl

end Table

def plannedRoutes (config : Config) (inputs : List (RouteModule × Bindings)) :
    List PlannedRoute :=
  inputs.map fun (file, bindings) =>
    ⟨file, .make file.index bindings config.sync config.deferred⟩

theorem outcome_planAll (config : Config) (inputs : List (RouteModule × Bindings)) :
    (planAll config inputs).outcome = .ok (plannedRoutes config inputs) := by
  induction inputs with
  | nil => rfl
  | cons input rest ih =>
    obtain ⟨file, bindings⟩ := input
    have hfirst : (planRoute config file bindings).outcome =
        .ok ⟨file, .make file.index bindings config.sync config.deferred⟩ := rfl
    rw [planAll, Reporting.outcome_bind_of_ok hfirst, Reporting.outcome_bind_of_ok ih]
    rfl

namespace TableRow

theorem importPieces_cases (gap : String) (row : TableRow) :
    (row.plan.sync.isEmpty = true ∧ importPieces gap row = []) ∨
      row.plan.sync.isEmpty = false ∧
        ∃ others, importPieces gap row = word gap "import" :: others := by
  unfold importPieces
  rcases row.plan.sync with shortened | (_ | ⟨pair, pairs⟩)
  · exact Or.inr ⟨rfl, _, rfl⟩
  · exact Or.inl ⟨rfl, rfl⟩
  · exact Or.inr ⟨rfl, _, rfl⟩

/-- The module starts with an import, or with its export if there is none. -/
theorem modulePieces_cases (rows : List TableRow) :
    ∃ others, modulePieces rows = word "" "import" :: others ∨
      modulePieces rows = word "" "export" :: others := by
  have himports : ∀ rows : List TableRow,
      (rows.all (·.plan.sync.isEmpty) = true ∧ importsPieces "" rows = []) ∨
        ∃ others, importsPieces "" rows = word "" "import" :: others := by
    intro rows
    induction rows with
    | nil => exact Or.inl ⟨rfl, rfl⟩
    | cons row rows ih =>
      rcases importPieces_cases "" row with ⟨hsync, -⟩ | ⟨hsync, others, hpieces⟩
      · rw [List.all_cons, hsync, importsPieces, if_pos hsync, Bool.true_and]
        exact ih
      · right
        rw [importsPieces, hsync, if_neg Bool.false_ne_true, hpieces]
        exact ⟨_, rfl⟩
  rcases himports rows with ⟨hall, hnone⟩ | ⟨others, hsome⟩
  · rw [modulePieces, hnone, gapBehind, if_pos hall]
    exact ⟨_, Or.inr rfl⟩
  · rw [modulePieces, hsome]
    exact ⟨_, Or.inl rfl⟩

/-- The module's text is read as the tokens of the outline. -/
theorem readTokens_moduleText {rows : List TableRow} (h : ∀ row ∈ rows, Sound row) :
    ∃ tokens, readTokens (Table.moduleText (rows.map entry)) = .ok tokens ∧
      tokens.map Token.symbol = moduleSymbols rows := by
  have htext := text_modulePieces rows
  have hline : ['#', '!'].isPrefixOf (Table.moduleText (rows.map entry)).toList = false := by
    obtain ⟨others, hpieces | hpieces⟩ := modulePieces_cases rows
    · rw [← htext, hpieces]
      rfl
    · rw [← htext, hpieces]
      rfl
  have hnest : Written.nestAll [] (modulePieces rows) = some [] := by
    rw [Written.nestAll_eq_nestSymbols, symbols_modulePieces]
    exact nested_moduleSymbols rows []
  have hgap : Written.GapRead ['\n'] [] := Written.gapRead_spaces rfl rfl
  have hread := Written.readTokens_text htext.symm hline (readable_modulePieces h _ _) hnest hgap
  refine ⟨_, hread, ?_⟩
  rw [Written.symbols_tokens]
  exact symbols_modulePieces rows

end TableRow

/-- What is planned for a file with a URL is read back, if the pattern and the names have no line
end that a literal does not keep and no deferred name ends a comment. -/
theorem sound_row {config : Config} {file : RouteModule} {bindings : Bindings}
    (hurl : (Url.ofFile? file.absolute).isSome = true)
    (hpattern : (config.scheme.apply file.dottedRelative).toList.any breaksLiteral = false)
    (hnames : ∀ name ∈ (RoutePlan.make file.index bindings config.sync config.deferred).sync.names,
      name.toList.any breaksLiteral = false)
    (hdeferred : ∀ name ∈ (RoutePlan.make file.index bindings config.sync config.deferred).deferred,
      ¬ ['*', '/'] <:+: name.toList) :
    TableRow.Sound (PlannedRoute.row config.scheme
      ⟨file, .make file.index bindings config.sync config.deferred⟩) := by
  obtain ⟨url, hurl⟩ := Option.isSome_iff_exists.1 hurl
  obtain ⟨htext, hdeferredText⟩ := Url.isAscii_text_ofFile? hurl
  constructor
  · simp only [PlannedRoute.row, hurl, Option.map_some, Option.getD_some]
    exact any_breaksLiteral_of_isAscii htext
  · simp only [PlannedRoute.row, hurl, Option.map_some, Option.getD_some]
    exact any_breaksLiteral_of_isAscii hdeferredText
  · exact hpattern
  · intro shortened h
    exact RoutePlan.isPlainName_of_mem_aliases h
  · exact hnames
  · exact hdeferred

/-- What is generated for files with URLs, in the order of their indices, is read back. Planning and
rendering succeed, the text has tokens, these are, by kind and value, the outline of the table, and
the module exports its default alone. -/
theorem render_planAll_reads (config : Config) (inputs : List (RouteModule × Bindings))
    (hindex : (inputs.map fun input => input.1.index) = List.range inputs.length)
    (hurl : ∀ input ∈ inputs, (Url.ofFile? input.1.absolute).isSome = true)
    (hpattern : ∀ input ∈ inputs,
      (config.scheme.apply input.1.dottedRelative).toList.any breaksLiteral = false)
    (hnames : ∀ input ∈ inputs,
      ∀ name ∈ (RoutePlan.make input.1.index input.2 config.sync config.deferred).sync.names,
        name.toList.any breaksLiteral = false)
    (hdeferred : ∀ input ∈ inputs,
      ∀ name ∈ (RoutePlan.make input.1.index input.2 config.sync config.deferred).deferred,
        ¬ ['*', '/'] <:+: name.toList) :
    (planAll config inputs).outcome = .ok (plannedRoutes config inputs) ∧
      ∃ text tokens,
        (Table.render config.scheme (plannedRoutes config inputs)).outcome = .ok text ∧
        readTokens text = .ok tokens ∧
        tokens.map Token.symbol =
          TableRow.moduleSymbols ((plannedRoutes config inputs).map (·.row config.scheme)) ∧
        (collectSource text).exports = .ok (.ofList ["default"]) := by
  have hmem : ∀ route ∈ plannedRoutes config inputs, ∃ input ∈ inputs,
      route = ⟨input.1, .make input.1.index input.2 config.sync config.deferred⟩ := by
    intro route hroute
    obtain ⟨input, hinput, rfl⟩ := List.mem_map.1 hroute
    exact ⟨input, hinput, rfl⟩
  have hindices : ((plannedRoutes config inputs).map fun route => route.file.index).Nodup := by
    have hsame : ((plannedRoutes config inputs).map fun route => route.file.index) =
        inputs.map fun input => input.1.index := by
      rw [plannedRoutes, List.map_map]
      rfl
    rw [hsame, hindex]
    exact List.nodup_range
  have hrepeated : Table.repeated? [] (Table.owners (plannedRoutes config inputs)) = none := by
    apply Table.repeated?_owners hindices
    intro route hroute
    obtain ⟨input, -, rfl⟩ := hmem route hroute
    exact ⟨input.2, config.sync, rfl⟩
  have hurls : ∀ route ∈ plannedRoutes config inputs,
      (Url.ofFile? route.file.absolute).isSome = true := by
    intro route hroute
    obtain ⟨input, hinput, rfl⟩ := hmem route hroute
    exact hurl input hinput
  have hsound : ∀ row ∈ (plannedRoutes config inputs).map (·.row config.scheme),
      TableRow.Sound row := by
    intro row hrow
    obtain ⟨route, hroute, rfl⟩ := List.mem_map.1 hrow
    obtain ⟨input, hinput, rfl⟩ := hmem route hroute
    exact sound_row (hurl input hinput) (hpattern input hinput) (hnames input hinput)
      (hdeferred input hinput)
  have haliases : ∀ row ∈ (plannedRoutes config inputs).map (·.row config.scheme),
      ∀ shortened ∈ row.plan.sync.aliases, shortened ≠ "export" := by
    intro row hrow shortened hshortened
    obtain ⟨route, hroute, rfl⟩ := List.mem_map.1 hrow
    obtain ⟨input, hinput, rfl⟩ := hmem route hroute
    have hhead := RoutePlan.head?_of_mem_aliases hshortened
    rintro rfl
    exact absurd hhead (by decide)
  obtain ⟨tokens, hread, hsymbols⟩ := TableRow.readTokens_moduleText hsound
  have hscan := TableRow.scan_moduleSymbols hsymbols haliases
  refine ⟨outcome_planAll config inputs, _, tokens, Table.outcome_render hrepeated hurls, hread,
    hsymbols, ?_⟩
  rw [collectSource, hread]
  simp only [collect, hscan, Inventory.exports]

/-- Settings that take two exports with the table and another one later. -/
def sampleConfig : Config :=
  { Config.standard with sync := .names ["default", "a-b"], deferred := ["loader"] }

/-- Two files, one with exports and one without. -/
def sampleInputs : List (RouteModule × Bindings) :=
  [(⟨0, "index.tsx", .ofString "/r/index.tsx"⟩, .ofList ["default", "loader", "a-b"]),
    (⟨1, "[id].tsx", .ofString "/r/[id].tsx"⟩, .empty)]

/-- A file with exports for the table and one for later, and a file that exports nothing. -/
theorem render_planAll_reads_two_files :
    ∃ text tokens,
      (Table.render sampleConfig.scheme (plannedRoutes sampleConfig sampleInputs)).outcome =
          .ok text ∧
        readTokens text = .ok tokens ∧
        tokens.map Token.symbol =
          [.name "import", .mark "\x7b", .name "default", .name "as", .name "__0_0", .mark ",",
            .text "a-b", .name "as", .name "__0_1", .mark "\x7d", .name "from",
            .text "file:///r/index.tsx", .mark ";", .name "export", .name "default", .mark "[",
            .mark "\x7b", .name "path", .mark ":", .text "/", .mark ",", .name "sync", .mark ":",
            .mark "\x7b", .name "default", .mark ":", .name "__0_0", .mark ",", .text "a-b",
            .mark ":", .name "__0_1", .mark "\x7d", .mark ",", .name "async", .mark ":", .mark "(",
            .mark ")", .mark "=>", .name "import", .mark "(", .text "file:///r/index.tsx?async",
            .mark ")", .mark ",", .mark "\x7d", .mark ",", .mark "\x7b", .name "path", .mark ":",
            .text "/:id", .mark ",", .name "sync", .mark ":", .mark "\x7b", .mark "\x7d", .mark ",",
            .name "async", .mark ":", .mark "(", .mark ")", .mark "=>", .name "Promise", .mark ".",
            .name "resolve", .mark "(", .mark "\x7b", .mark "\x7d", .mark ")", .mark ",",
            .mark "\x7d", .mark ",", .mark "]", .mark ";"] ∧
        (collectSource text).exports = .ok (.ofList ["default"]) := by
  have hread := render_planAll_reads sampleConfig sampleInputs (by decide) (by decide +kernel)
    (by decide +kernel) (by decide +kernel) (by decide +kernel)
  obtain ⟨-, text, tokens, hrender, htokens, hsymbols, hexports⟩ := hread
  refine ⟨text, tokens, hrender, htokens, hsymbols.trans ?_, hexports⟩
  decide +kernel

end RouteTable
