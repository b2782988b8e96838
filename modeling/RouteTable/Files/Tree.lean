import RouteTable.Files.Path

/-!
Trees of files: directories with entries, files with contents, and symbolic links. A location names
an entry by the directories on the way to it, none of which is a link.
-/

namespace RouteTable

inductive FileNode where
  | file (contents : List UInt8)
  | link (target : Path)
  | directory (entries : List (FileName × FileNode))
deriving Inhabited

abbrev FileEntries := List (FileName × FileNode)

/-- The names that lead from the root to an entry. -/
abbrev Location := List FileName

def Location.path (location : Location) : Path :=
  .ofNames location

namespace FileNode

def child? (node : FileNode) (name : FileName) : Option FileNode :=
  match node with
  | .directory entries => entries.lookup name
  | _ => none

def isDirectory : FileNode → Bool
  | .directory _ => true
  | _ => false

def find? (node : FileNode) : Location → Option FileNode
  | [] => some node
  | name :: rest => (node.child? name).bind (·.find? rest)

end FileNode

/-- Entries with another node under a name, or with one more. -/
def FileEntries.put (name : FileName) (node : FileNode) : FileEntries → FileEntries
  | [] => [(name, node)]
  | (n, old) :: rest => if n = name then (n, node) :: rest else (n, old) :: put name node rest

namespace FileNode

/-- The node with another at a location. Directories on the way are made if they are missing. -/
def put (node : FileNode) (new : FileNode) : Location → FileNode
  | [] => new
  | name :: rest =>
    let entries := match node with
      | .directory entries => entries
      | _ => []
    let old := (entries.lookup name).getD (.directory [])
    .directory (FileEntries.put name (old.put new rest) entries)

def erase (node : FileNode) : Location → FileNode
  | [] => .directory []
  | [name] =>
    match node with
    | .directory entries => .directory (entries.filter (·.1 != name))
    | _ => node
  | name :: rest =>
    match node, node.child? name with
    | .directory entries, some old =>
      .directory (FileEntries.put name (old.erase rest) entries)
    | _, _ => node

mutual

/-- The node with the entries of its directories in the order of their names. -/
def sorted : FileNode → FileNode
  | .file contents => .file contents
  | .link target => .link target
  | .directory entries => .directory ((sortedEntries entries).mergeSort fun a b => a.1 ≤ b.1)

def sortedEntries : List (FileName × FileNode) → List (FileName × FileNode)
  | [] => []
  | (name, node) :: rest => (name, node.sorted) :: sortedEntries rest

end

mutual

def directories (location : Location) : FileNode → List Location
  | .file _ => []
  | .link _ => []
  | .directory entries => location :: directoriesOf location entries

def directoriesOf (location : Location) : List (FileName × FileNode) → List Location
  | [] => []
  | (name, node) :: rest =>
    node.directories (location ++ [name]) ++ directoriesOf location rest

end

end FileNode

end RouteTable
