import RouteTable.Proofs.Script.Symbols
import RouteTable.Route.Table

/-!
What the module of a route table says, token by token: an import for each route of which something
comes with the table, then the table with an entry for each route. Here each token is its kind and
its value, without the spacing and the quotes that it is written with.
-/

namespace RouteTable

open Script

def SyncPart.names : SyncPart → List String
  | .whole _ => []
  | .named pairs => pairs.map Prod.fst

/-- What a route's part of the module is made from: the URL of its file, the one for loading the
file later, its pattern and its plan. -/
structure TableRow where
  specifier : String
  deferredSpecifier : String
  pattern : String
  plan : RoutePlan

namespace TableRow

def pairSymbols (joined : Symbol) : List (String × String) → List Symbol
  | [] => []
  | (name, shortened) :: rest =>
    [.key name, joined, .name shortened] ++
      rest.flatMap fun pair => [.mark ",", .key pair.1, joined, .name pair.2]

/-- The import of a route. There is none if nothing comes with the table. -/
def importSymbols (row : TableRow) : List Symbol :=
  match row.plan.sync with
  | .whole shortened =>
    [.name "import", .mark "*", .name "as", .name shortened, .name "from", .text row.specifier,
      .mark ";"]
  | .named [] => []
  | .named pairs =>
    [.name "import", .mark "\x7b"] ++ pairSymbols (.name "as") pairs ++
      [.mark "\x7d", .name "from", .text row.specifier, .mark ";"]

/-- The value of an entry for what comes with the table: the alias of the whole module, or an object
from names to aliases. -/
def syncSymbols (row : TableRow) : List Symbol :=
  match row.plan.sync with
  | .whole shortened => [.name shortened]
  | .named pairs => [.mark "\x7b"] ++ pairSymbols (.mark ":") pairs ++ [.mark "\x7d"]

/-- The function of an entry that loads the deferred exports, or gives an empty object if there are
none. -/
def deferredSymbols (row : TableRow) : List Symbol :=
  match row.plan.deferred with
  | [] =>
    [.mark "(", .mark ")", .mark "=>", .name "Promise", .mark ".", .name "resolve", .mark "(",
      .mark "\x7b", .mark "\x7d", .mark ")"]
  | _ :: _ =>
    [.mark "(", .mark ")", .mark "=>", .name "import", .mark "(", .text row.deferredSpecifier,
      .mark ")"]

def entrySymbols (row : TableRow) : List Symbol :=
  [.mark "\x7b", .name "path", .mark ":", .text row.pattern, .mark ",", .name "sync", .mark ":"] ++
    row.syncSymbols ++ [.mark ",", .name "async", .mark ":"] ++ row.deferredSymbols ++
      [.mark ",", .mark "\x7d", .mark ","]

/-- The whole module: the imports, and the table as its default export. -/
def moduleSymbols (rows : List TableRow) : List Symbol :=
  rows.flatMap importSymbols ++ [.name "export", .name "default", .mark "["] ++
    rows.flatMap entrySymbols ++ [.mark "]", .mark ";"]

section Nesting

theorem nested_pairSymbols {joined : Symbol} (hjoined : Nested [joined])
    (pairs : List (String × String)) : Nested (pairSymbols joined pairs) := by
  have hpair : ∀ pair : String × String, Nested [.key pair.1, joined, .name pair.2] := by
    intro pair
    have hname : Nested [.name pair.2] := fun _ => rfl
    exact (nested_key pair.1).append (hjoined.append hname)
  cases pairs with
  | nil => exact nested_nil
  | cons pair pairs =>
    apply (hpair pair).append
    apply Nested.flatMap
    intro next _
    have hcomma : Nested [.mark ","] := fun _ => rfl
    exact hcomma.append (hpair next)

theorem nested_importSymbols (row : TableRow) : Nested row.importSymbols := by
  unfold importSymbols
  rcases row.plan.sync with shortened | (_ | ⟨pair, pairs⟩)
  · exact fun _ => rfl
  · exact nested_nil
  · intro openers
    have hjoined : Nested [.name "as"] := fun _ => rfl
    have hpairs := nested_pairSymbols hjoined (pair :: pairs)
    have hinside := nestSymbols_append (hpairs ('{' :: openers))
      [.mark "\x7d", .name "from", .text row.specifier, .mark ";"]
    dsimp only
    rw [List.append_assoc]
    exact hinside

theorem nested_syncSymbols (row : TableRow) : Nested row.syncSymbols := by
  unfold syncSymbols
  rcases row.plan.sync with shortened | pairs
  · exact fun _ => rfl
  · intro openers
    have hjoined : Nested [.mark ":"] := fun _ => rfl
    have hpairs := nested_pairSymbols hjoined pairs
    have hinside := nestSymbols_append (hpairs ('{' :: openers)) [.mark "\x7d"]
    dsimp only
    rw [List.append_assoc]
    exact hinside

theorem nested_deferredSymbols (row : TableRow) : Nested row.deferredSymbols := by
  unfold deferredSymbols
  rcases row.plan.deferred with _ | ⟨name, names⟩
  · exact fun _ => rfl
  · exact fun _ => rfl

theorem nested_entrySymbols (row : TableRow) : Nested row.entrySymbols := by
  have hmiddle : Nested (row.syncSymbols ++ [.mark ",", .name "async", .mark ":"] ++
      row.deferredSymbols) := by
    have hkey : Nested [.mark ",", .name "async", .mark ":"] := fun _ => rfl
    exact ((nested_syncSymbols row).append hkey).append (nested_deferredSymbols row)
  intro openers
  have hinside := nestSymbols_append (hmiddle ('{' :: openers))
    [.mark ",", .mark "\x7d", .mark ","]
  simp only [entrySymbols, List.append_assoc] at hinside ⊢
  exact hinside

/-- The brackets of the module nest. -/
theorem nested_moduleSymbols (rows : List TableRow) : Nested (moduleSymbols rows) := by
  have himports : Nested (rows.flatMap importSymbols) :=
    Nested.flatMap fun row _ => nested_importSymbols row
  have hentries : Nested (rows.flatMap entrySymbols) :=
    Nested.flatMap fun row _ => nested_entrySymbols row
  have htable : Nested ([.name "export", .name "default", .mark "["] ++
      (rows.flatMap entrySymbols ++ [.mark "]", .mark ";"])) := by
    intro openers
    exact nestSymbols_append (hentries ('[' :: openers)) _
  simp only [moduleSymbols, List.append_assoc] at htable ⊢
  exact himports.append htable

end Nesting

end TableRow

def PlannedRoute.row (scheme : PatternScheme) (route : PlannedRoute) : TableRow where
  specifier := ((Url.ofFile? route.file.absolute).map Url.text).getD ""
  deferredSpecifier :=
    ((Url.ofFile? route.file.absolute).map fun url => url.deferred.text).getD ""
  pattern := scheme.apply route.file.dottedRelative
  plan := route.plan

end RouteTable
