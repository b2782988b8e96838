import RouteTable.Files.Lookup
import RouteTable.Reporting

/-!
Changing a file system: writing files and making directories. Each change either is made or leaves
the files as they are.
-/

namespace RouteTable

inductive FileChange where
  | directory (path : Path)
  | file (path : Path) (contents : List UInt8)

namespace FileSystem

/-- Writes a file, in the place of the file that there is. -/
def write (fs : FileSystem) (path : Path) (contents : List UInt8) : Except FileFault FileSystem :=
  match findFor true fs path with
  | .ok (.file location _) => .ok { fs with root := fs.root.put (.file contents) location }
  | .ok (.vacant location) => .ok { fs with root := fs.root.put (.file contents) location }
  | .ok (.directory ..) => .error .isDirectory
  | .error fault => .error fault

/-- Makes a directory in a directory that there is. A link in its place is not followed. -/
def makeDirectory (fs : FileSystem) (path : Path) : Except FileFault FileSystem :=
  match path.names.getLast? with
  | none =>
    if path.isEmpty then .error .notFound
    else if maximalPath ≤ path.bytes.length then .error .nameTooLong
    else .error .exists
  | some name =>
    if path.bytes.contains 0 then .error .nulInPath
    else if maximalPath ≤ path.bytes.length then .error .nameTooLong
    else
      match fs.follow false maximalLinks (fs.start path) .slash path.names.dropLast with
      | .ok (.directory location entries) =>
        if name = upName ∨ (entries.lookup name).isSome then .error .exists
        else if maximalName < name.length then .error .nameTooLong
        else .ok { fs with root := fs.root.put (.directory []) (location ++ [name]) }
      | .ok _ => .error .notFound
      | .error fault => .error fault

def change (fs : FileSystem) : FileChange → Except FileFault FileSystem
  | .directory path => fs.makeDirectory path
  | .file path contents => fs.write path contents

/-- The files after changes, up to the first that cannot be made. -/
def perform (fs : FileSystem) : List FileChange → FileSystem
  | [] => fs
  | change :: rest =>
    match fs.change change with
    | .ok fs => fs.perform rest
    | .error _ => fs

abbrev Changing := Reporting FileChange FileFault FileSystem

def make (fs : FileSystem) (change : FileChange) : Changing :=
  match fs.change change with
  | .ok fs => ⟨[change], .ok fs⟩
  | .error fault => .fail fault

def makeUnlessThere (fs : FileSystem) (path : Path) : Changing :=
  match fs.makeDirectory path with
  | .ok changed => ⟨[.directory path], .ok changed⟩
  | .error fault => if fs.isDirectory path then pure fs else .fail fault

/-- Makes the directories that are missing, the outermost first, so that there is a directory at a
path of fewer than `count` names. -/
def makeDirectoriesWithin (fs : FileSystem) : (count : Nat) → Path → Changing
  | 0, _ => pure fs
  | count + 1, path =>
    if path.isEmpty then pure fs
    else
      match fs.makeDirectory path with
      | .error .notFound => do
        let fs ← match path.parent? with
          | some parent => fs.makeDirectoriesWithin count parent
          | none => pure fs
        fs.makeUnlessThere path
      | _ => fs.makeUnlessThere path

/-- Makes the directories that are missing, so that there is one at a path. -/
def makeDirectories (fs : FileSystem) (path : Path) : Changing :=
  fs.makeDirectoriesWithin (path.names.length + 1) path

end FileSystem

end RouteTable
