import RouteTable.Pass.Discovery

/-!
A pass from route files to the module of their table: discovery, the exports of every file, a plan
for each, and the text.
-/

namespace RouteTable

/-- A source of the names that a module exports, given the module's file and its text. -/
abbrev Scanner := RouteModule → String → Reporting Event Exports.InventoryError Bindings

def Scanner.standard : Scanner := fun file source =>
  let inventory := Exports.collectSource source
  ⟨inventory.events file.absolute.shown, inventory.exports⟩

def bindingsOf (scanner : Scanner) (fs : FileSystem) (file : RouteModule) : Pass Bindings := do
  let source ← .ofExcept ((fs.readText file.absolute).mapError (.routeFile file.absolute))
  let bindings ← .ofLogged (.exports file.absolute) (scanner file source)
  .log (.inventoried file.relative bindings.names)
  pure bindings

def bindingsOfAll (scanner : Scanner) (fs : FileSystem) : List RouteModule → Pass (List Bindings)
  | [] => pure []
  | file :: rest => do
    let bindings ← bindingsOf scanner fs file
    let others ← bindingsOfAll scanner fs rest
    pure (bindings :: others)

def planRoute (config : Config) (file : RouteModule) (bindings : Bindings) : Pass PlannedRoute :=
  ⟨(RoutePlan.events file.relative bindings config.sync config.deferred).map .event,
    .ok ⟨file, .make file.index bindings config.sync config.deferred⟩⟩

def planAll (config : Config) : List (RouteModule × Bindings) → Pass (List PlannedRoute)
  | [] => pure []
  | (file, bindings) :: rest => do
    let route ← planRoute config file bindings
    let others ← planAll config rest
    pure (route :: others)

def dependOnAll : List RouteModule → Pass Unit
  | [] => pure ()
  | file :: rest => do
    .dependOnFile file.absolute
    dependOnAll rest

/-- Generates the module of the route table, on a machine that can run `available` workers at once.
How many of them work on the files shows in nothing but a report. -/
def generateTable (scanner : Scanner) (available : Nat) (config : Config) (fs : FileSystem) :
    Pass String := do
  let files ← findRoutes config fs
  dependOnAll files
  let workers := config.workersFor available files.length
  if workers != 1 then
    .log (.analyzing files.length workers)
  let bindings ← bindingsOfAll scanner fs files
  let routes ← planAll config (files.zip bindings)
  let text ← .ofLogged .table (Table.render config.scheme routes)
  .log (.generated files.length text.utf8ByteSize)
  pure text

end RouteTable
