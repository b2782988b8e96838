import RouteTable.Reporting
import RouteTable.Route.Plan
import RouteTable.Route.Scheme
import RouteTable.Script.Literal
import RouteTable.Url.Basic

/-!
The module that holds a route table: an import for each route of which something comes with the
table, then the table itself, a list with an entry for each route.
-/

namespace RouteTable

open Script

structure PlannedRoute where
  file : RouteModule
  plan : RoutePlan

inductive TableError where
  /-- Two routes have one alias, or one route has it twice. -/
  | repeatedAlias (name first second : String)
  /-- The path of a route file is not absolute. -/
  | notAbsolute (path : Path)
deriving DecidableEq

def TableError.message : TableError → String
  | .repeatedAlias name first second =>
      "alias `" ++ name ++ "` generated for both " ++ first ++ " and " ++ second
  | .notAbsolute path => "cannot express " ++ path.shown ++ " as a file URL"

namespace Table

/-- The aliases of routes, each with the route it stands in. -/
def owners (routes : List PlannedRoute) : List (String × String) :=
  routes.flatMap fun route => route.plan.sync.aliases.map (·, route.file.relative)

/-- The first alias that is among those seen before it, with both of its routes. -/
def repeated? (seen : List (String × String)) : List (String × String) → Option TableError
  | [] => none
  | (name, route) :: rest =>
    match seen.lookup name with
    | some first => some (.repeatedAlias name first route)
    | none => repeated? ((name, route) :: seen) rest

/-- Names and aliases with commas between them, each name before the word that joins it to its
alias. -/
def pairsText (joined : String) (pairs : List (String × String)) : String :=
  ", ".intercalate (pairs.map fun (name, shortened) => nameOrQuoted name ++ joined ++ shortened)

/-- The import of a route, if something of it comes with the table. -/
def importStatement? (specifier : String) : SyncPart → Option String
  | .whole name => some ("import * as " ++ name ++ " from " ++ specifier ++ ";")
  | .named [] => none
  | .named pairs =>
    some ("import \x7b " ++ pairsText " as " pairs ++ " \x7d from " ++ specifier ++ ";")

/-- The value that an entry has for what comes with the table. -/
def syncText : SyncPart → String
  | .whole name => name
  | .named [] => "\x7b\x7d"
  | .named pairs => "\x7b " ++ pairsText ": " pairs ++ " \x7d"

/-- A function that loads the deferred exports. A comment names them for the bundler. -/
def deferredThunk (specifier : String) : List String → String
  | [] => "() => Promise.resolve(\x7b\x7d)"
  | names =>
    "() => import(/* webpackExports: [" ++ ", ".intercalate (names.map doubleQuoted) ++ "] */ " ++
      specifier ++ ")"

def entryText (pattern : String) (plan : RoutePlan) (deferredSpecifier : String) : String :=
  "  \x7b\n" ++
  "    path: " ++ doubleQuoted pattern ++ ",\n" ++
  "    sync: " ++ syncText plan.sync ++ ",\n" ++
  "    async: " ++ deferredThunk deferredSpecifier plan.deferred ++ ",\n" ++
  "  \x7d,\n"

structure Entry where
  statement? : Option String
  entryText : String
deriving DecidableEq

def entry (scheme : PatternScheme) (route : PlannedRoute) : Reporting Event TableError Entry :=
  match Url.ofFile? route.file.absolute with
  | none => .fail (.notAbsolute route.file.absolute)
  | some url => do
    let statement := importStatement? (doubleQuoted url.text) route.plan.sync
    if let some text := statement then
      .report (.imported route.file.relative text)
    let pattern := scheme.apply route.file.dottedRelative
    pure ⟨statement, entryText pattern route.plan (doubleQuoted url.deferred.text)⟩

def entries (scheme : PatternScheme) :
    List PlannedRoute → Reporting Event TableError (List Entry)
  | [] => pure []
  | route :: rest => do
    let first ← entry scheme route
    let others ← entries scheme rest
    pure (first :: others)

def moduleText (entries : List Entry) : String :=
  let statements := String.join ((entries.filterMap Entry.statement?).map (· ++ "\n"))
  let head := if statements.isEmpty then "" else statements ++ "\n"
  if entries.isEmpty then head ++ "export default [];\n"
  else
    head ++ "export default [\n" ++ String.join (entries.map Entry.entryText) ++ "];\n"

/-- Writes the module of a table. Aliases are checked before any route is looked at. -/
def render (scheme : PatternScheme) (routes : List PlannedRoute) :
    Reporting Event TableError String :=
  match repeated? [] (owners routes) with
  | some e => .fail e
  | none => do
    let entries ← entries scheme routes
    pure (moduleText entries)

end Table

end RouteTable
