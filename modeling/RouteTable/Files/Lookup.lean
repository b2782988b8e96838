import RouteTable.Files.Fault
import RouteTable.Files.Tree

/-!
Following paths in a file system: names one after another, two points up to the directory above, and
links to their targets.
-/

namespace RouteTable

/-- A tree of files, and the directory in it that relative paths start at. -/
structure FileSystem where
  root : FileNode
  workingDirectory : Location

inductive Found where
  | file (location : Location) (contents : List UInt8)
  | directory (location : Location) (entries : FileEntries)
  /-- Nothing, in a directory that there is. -/
  | vacant (location : Location)

namespace FileSystem

/-- The number of links that are followed on one path. -/
def maximalLinks : Nat := 40

/-- The number of bytes of a name. -/
def maximalName : Nat := 255

/-- The number of bytes that a path is shorter than. -/
def maximalPath : Nat := 4096

def upName : FileName := [Path.point, Path.point]

def entriesAt (fs : FileSystem) (location : Location) : FileEntries :=
  match fs.root.find? location with
  | some (.directory entries) => entries
  | _ => []

/-- Follows the names of a path from a directory on, through at most `links` links. The path goes
on after its last name as `ending` says: before a slash the name leads to a directory or to nothing,
and before a point to a directory. If `making`, a file is to be made there, which a slash forbids
at once. -/
def follow (fs : FileSystem) (making : Bool) (links : Nat) (location : Location)
    (ending : Path.Ending) (names : List FileName) : Except FileFault Found :=
  match names with
  | [] => .ok (.directory location (fs.entriesAt location))
  | name :: rest =>
    if name = upName then fs.follow making links location.dropLast ending rest
    else if making ∧ rest.isEmpty ∧ ending = .slash then .error .isDirectory
    else if maximalName < name.length then .error .nameTooLong
    else
      match (fs.entriesAt location).lookup name with
      | none =>
        if rest.isEmpty ∧ ending ≠ .point then .ok (.vacant (location ++ [name]))
        else .error .notFound
      | some (.file contents) =>
        if rest.isEmpty ∧ ending = .name then .ok (.file (location ++ [name]) contents)
        else .error .notDirectory
      | some (.directory _) => fs.follow making links (location ++ [name]) ending rest
      | some (.link target) =>
        match links with
        | 0 => .error .tooManyLinks
        | links + 1 =>
          fs.follow making links (if target.isAbsolute then [] else location)
            (if rest.isEmpty then ending.after target.ending else ending) (target.names ++ rest)
termination_by (links, names.length)
decreasing_by
  · exact Prod.Lex.right _ (by simp)
  · exact Prod.Lex.right _ (by simp)
  · exact Prod.Lex.left _ _ (Nat.lt_succ_self _)

def start (fs : FileSystem) (path : Path) : Location :=
  if path.isAbsolute then [] else fs.workingDirectory

/-- Follows a path, to make a file there if `making`. -/
def findFor (making : Bool) (fs : FileSystem) (path : Path) : Except FileFault Found :=
  if path.bytes.contains 0 then .error .nulInPath
  else if path.isEmpty then .error .notFound
  else if maximalPath ≤ path.bytes.length then .error .nameTooLong
  else fs.follow making maximalLinks (fs.start path) path.ending path.names

def find : FileSystem → Path → Except FileFault Found :=
  findFor false

def locate (fs : FileSystem) (path : Path) : Except FileFault Location :=
  match fs.find path with
  | .ok (.file location _) => .ok location
  | .ok (.directory location _) => .ok location
  | .ok (.vacant _) => .error .notFound
  | .error fault => .error fault

def isDirectory (fs : FileSystem) (path : Path) : Bool :=
  match fs.find path with
  | .ok (.directory ..) => true
  | _ => false

def isFile (fs : FileSystem) (path : Path) : Bool :=
  match fs.find path with
  | .ok (.file ..) => true
  | _ => false

def read (fs : FileSystem) (path : Path) : Except FileFault (List UInt8) :=
  match fs.find path with
  | .ok (.file _ contents) => .ok contents
  | .ok (.directory ..) => .error .isDirectory
  | .ok (.vacant _) => .error .notFound
  | .error fault => .error fault

/-- The contents of a file that is a text. -/
def readText (fs : FileSystem) (path : Path) : Except FileFault String := do
  let contents ← fs.read path
  match Text.Utf8.decode? contents with
  | some text => .ok (String.ofList text)
  | none => .error .notText

end FileSystem

end RouteTable
