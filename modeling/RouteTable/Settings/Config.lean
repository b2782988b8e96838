import RouteTable.Files.Path
import RouteTable.Route.Choice
import RouteTable.Route.Scheme

/-!
The settings of a pass over the routes of a project.
-/

namespace RouteTable

abbrev WorkerCount := { n : Nat // 0 < n }

structure Config where
  /-- The directory that a relative base directory is in. -/
  root : Path
  /-- The directory of the route files, as a path or as a URL. -/
  base : String
  /-- Globs for the route files. -/
  patterns : List String
  /-- Globs for files that are no route files. -/
  ignored : List String
  scheme : PatternScheme
  /-- What comes with the table. -/
  sync : SyncChoice
  /-- What is loaded when it is asked for. -/
  deferred : List String
  /-- Whether files and directories with a point in front are looked at. -/
  hidden : Bool
  /-- The greatest number of workers, if there is a bound. -/
  workers : Option WorkerCount

namespace Config

def standard : Config where
  root := .ofString "."
  base := "src/routes"
  patterns := ["**/*.js", "**/*.jsx", "**/*.ts", "**/*.tsx"]
  ignored := ["**/_*", "**/_*/**"]
  scheme := .standard
  sync := .all
  deferred := []
  hidden := false
  workers := none

instance : Inhabited Config := ⟨standard⟩

/-- The number of workers for so many files, on a machine that can run `available` at once. -/
def workersFor (config : Config) (available files : Nat) : Nat :=
  max 1 (min ((config.workers.map Subtype.val).getD available) files)

end Config

end RouteTable
