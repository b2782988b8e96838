import RouteTable.Exports.Collect
import RouteTable.Files.Walk
import RouteTable.Glob.Pattern
import RouteTable.Route.Table
import RouteTable.Settings.Layer

/-!
What can go wrong in a pass over the routes, with the messages for it.
-/

namespace RouteTable

inductive BaseFault where
  | notFileUrl
  | missing
  | unreachable (fault : FileFault)
  | notDirectory
deriving DecidableEq

def BaseFault.message : BaseFault → String
  | .notFileUrl => "not a valid file URL"
  | .missing => "directory does not exist"
  | .unreachable fault => fault.message
  | .notDirectory => "not a directory"

inductive PassError where
  | base (path : Path) (fault : BaseFault)
  | configFile (path : Path) (fault : FileFault)
  | layer (path : Path) (fault : LayerFault)
  | glob (error : GlobError)
  | walk (fault : WalkFault)
  | routeFile (path : Path) (fault : FileFault)
  | exports (path : Path) (error : Exports.InventoryError)
  | table (error : TableError)

namespace PassError

def message : PassError → String
  | .base path fault => "invalid base directory " ++ path.shown ++ ": " ++ fault.message
  | .configFile path _ => "failed to read config file " ++ path.shown
  | .layer path fault =>
      "invalid config file " ++ path.shown ++ ": " ++ fault.message
  | .glob error => error.message
  | .walk _ => "failed to walk route directory"
  | .routeFile path _ => "failed to read route file " ++ path.shown
  | .exports path error => error.message path.shown
  | .table error => error.message

/-- The messages of an error and of what is behind it, each behind the one before. -/
def causes (error : PassError) : List String :=
  error.message ::
    match error with
    | .configFile _ fault => [fault.message]
    | .walk fault => fault.causes
    | .routeFile _ fault => [fault.message]
    | _ => []

end PassError

end RouteTable
