import RouteTable.Pass.Notice
import RouteTable.Settings.Base

/-!
Discovering route files: the files under the base directory whose relative paths match a glob for
route files and no glob for others, in the order of these paths.
-/

namespace RouteTable

namespace Discovery

/-- The path that names lead to, if they are texts. -/
def relative? (names : List FileName) : Option String :=
  (names.mapM FileName.text?).map "/".intercalate

/-- Whether a file is a route file, with a report if it matches a glob of each kind or has a path
that is no text. -/
def select (includes ignores : GlobSet) (base : Location) (names : List FileName) :
    Pass (Option (String × Path)) := do
  let path := Location.path (base ++ names)
  match relative? names with
  | none =>
    .log (.skipped path.shown)
    pure none
  | some relative =>
    if includes.isMatch relative then
      match ignores.firstMatch? relative with
      | some pattern =>
        .log (.ignored relative pattern)
        pure none
      | none => pure (some (relative, path))
    else pure none

def selectAll (includes ignores : GlobSet) (base : Location) :
    List (List FileName) → Pass (List (String × Path))
  | [] => pure []
  | names :: rest => do
    let found ← select includes ignores base names
    let others ← selectAll includes ignores base rest
    pure (found.toList ++ others)

def number : (index : Nat) → List (String × Path) → List RouteModule
  | _, [] => []
  | index, (relative, path) :: rest => ⟨index, relative, path⟩ :: number (index + 1) rest

end Discovery

/-- Discovers the route files. The base directory is a dependency as soon as it is resolved. -/
def findRoutes (config : Config) (fs : FileSystem) : Pass (List RouteModule) := do
  let base ← .ofExcept (config.baseLocation fs)
  .log (.discovering (Location.path base).shown)
  .dependOnDirectory (Location.path base)
  let includes ← .ofExcept ((GlobSet.compile config.patterns).mapError .glob)
  let ignores ← .ofExcept ((GlobSet.compile config.ignored).mapError .glob)
  let walk := fs.walk config.hidden base
  let found ← Discovery.selectAll includes ignores base walk.reports
  .ofExcept (walk.outcome.mapError .walk)
  .log (.discovered found.length)
  pure (Discovery.number 0 (found.mergeSort fun a b => a.1 ≤ b.1))

end RouteTable
