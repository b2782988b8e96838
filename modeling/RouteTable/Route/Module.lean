import RouteTable.Files.Path

/-!
Route files: the modules that a route table is made of.
-/

namespace RouteTable

/-- A module found under the base directory: its place in the order of the table, its path relative
to the base directory, with forward slashes, and its absolute path. -/
structure RouteModule where
  index : Nat
  relative : String
  absolute : Path
deriving DecidableEq

/-- The relative path with a point in front, as pattern schemes take it. -/
def RouteModule.dottedRelative (file : RouteModule) : String :=
  "./" ++ file.relative

end RouteTable
