import RouteTable.Command.Run

/-!
The program. It looks at the files that a run can need, works out the run from what it has seen, and
makes the changes that the run asks for.
-/

namespace RouteTable.Command

/-- What was seen of the files, and the directories that were looked through. -/
structure Seen where
  root : FileNode
  through : List Location

abbrev Look := StateT Seen IO

def locationOf (path : String) : Location :=
  (Path.ofString path).names

def note (node : FileNode) (location : Location) : Look Unit :=
  modify fun seen => { seen with root := seen.root.put node location }

def brokenLink : FileNode := .link ⟨[0]⟩

mutual

/-- Looks at an entry of a directory, which is given by its path without links, and gives the path
without links of the entry. With `all`, looks through what is in it as well. -/
partial def lookAt (all : Bool) (directory name : String) : Look (Option String) := do
  let entry : IO.FS.DirEntry := ⟨directory, name⟩
  let path := entry.path.toString
  match ← (entry.path.symlinkMetadata).toBaseIO with
  | .error _ => return none
  | .ok metadata =>
    match metadata.type with
    | .symlink =>
      match ← (IO.FS.realPath path).toBaseIO with
      | .error _ =>
        note brokenLink (locationOf path)
        return none
      | .ok target =>
        note (.link (.ofString target.toString)) (locationOf path)
        lookAlong all "/" ((target.toString.splitOn "/").filter (!·.isEmpty))
        return some target.toString
    | .dir =>
      unless ((← get).root.find? (locationOf path)).any FileNode.isDirectory do
        note (.directory []) (locationOf path)
      if all then lookThrough path
      return some path
    | _ =>
      match ← (IO.FS.readBinFile path).toBaseIO with
      | .ok contents => note (.file contents.toList) (locationOf path)
      | .error _ => note (.file []) (locationOf path)
      return some path

partial def lookThrough (path : String) : Look Unit := do
  let location := locationOf path
  if !(← get).through.contains location then
    modify fun seen => { seen with through := location :: seen.through }
    for entry in ← (← IO.FS.realPath path).readDir do
      let _ ← lookAt true path entry.fileName

/-- Looks at names one after another, from a directory on, and with `all` through the last. -/
partial def lookAlong (all : Bool) (directory : String) : List String → Look Unit
  | [] => if all then lookThrough directory else pure ()
  | name :: rest => do
    if name = ".." then
      lookAlong all ((Path.ofString directory).parent?.map Path.shown |>.getD "/") rest
    else if let some path ← lookAt (all && rest.isEmpty) directory name then
      lookAlong all path rest

end

def lookFrom (all : Bool) (working : String) (path : Path) : Look Unit := do
  let start := if path.isAbsolute then "/" else working
  let names := path.names.map fun name => (Path.mk name).shown
  try lookAlong all start names catch _ => pure ()

/-- The world of a run, as far as it was seen. -/
def worldOf (seen : Seen) (working : String) (environment : Environment) : World :=
  ⟨⟨seen.root, locationOf working⟩, environment, 4⟩

/-- Looks at the files that a run with these arguments can need: config files first, then the base
directory that they lead to, and the files to write. -/
def look (working : String) (environment : Environment) (arguments : Arguments) : Look Unit := do
  lookFrom false working (.ofString working)
  lookFrom false working environment.userConfig
  lookFrom false working (arguments.rootPath.join (.ofString Config.fileName))
  for path in [arguments.config, arguments.output, arguments.depfile].filterMap id do
    lookFrom false working path
  if let .ok config := (configure (worldOf (← get) working environment) arguments).outcome then
    if let .ok base := config.basePath then
      lookFrom true working base

def make : FileChange → IO Unit
  | .directory path => IO.FS.createDir path.shown
  | .file path contents => IO.FS.writeBinFile path.shown ⟨contents.toArray⟩

end RouteTable.Command

open RouteTable in
def main (words : List String) : IO UInt32 := do
  let working := (← IO.currentDir).toString
  let home := (← IO.getEnv "HOME").getD ""
  let configHome ← IO.getEnv "XDG_CONFIG_HOME"
  let environment : Environment := ⟨.ofString home, configHome.map .ofString⟩
  let empty : Command.Seen := ⟨.directory [], []⟩
  let seen ← match Command.Arguments.read words with
    | .ok arguments => Prod.snd <$> (Command.look working environment arguments).run empty
    | .error _ => pure empty
  let outcome := Command.run (Command.worldOf seen working environment) words
  IO.eprint outcome.stderr
  outcome.changes.forM Command.make
  IO.print outcome.stdout
  return outcome.status.toUInt32
