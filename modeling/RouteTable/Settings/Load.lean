import RouteTable.Log
import RouteTable.Pass.Error

/-!
Loading settings: the standard settings, under the user's config file, under the config file of the
project or one that is named instead of it.
-/

namespace RouteTable

/-- The variables of the environment that say where the user's files are. -/
structure Environment where
  home : Path
  configHome : Option Path

namespace Environment

/-- The directory of the user's settings. It is a directory at home, unless the environment names it
by an absolute path. -/
def configDirectory (environment : Environment) : Path :=
  match environment.configHome with
  | some path => if path.isAbsolute then path else atHome
  | none => atHome
where
  atHome : Path := environment.home.join (.ofString ".config")

def userConfig (environment : Environment) : Path :=
  (environment.configDirectory.join (.ofString "fsroutes")).join (.ofString "config.toml")

end Environment

namespace Config

def fileName : String := "fsroutes.toml"

def withFile (config : Config) (fs : FileSystem) (path : Path) : Except PassError Config :=
  match fs.readText path with
  | .error fault => .error (.configFile path fault)
  | .ok text =>
    match Layer.parse text with
    | .error fault => .error (.layer path fault)
    | .ok layer =>
      match layer.apply config with
      | (config, none) => .ok config
      | (_, some fault) => .error (.layer path fault)

/-- The project's config file: the one that is named, or else the one in the root, if it is
there. -/
def projectFile? (fs : FileSystem) (root : Path) (named : Option Path) : Option Path :=
  match named with
  | some path => some path
  | none =>
    let path := root.join (.ofString fileName)
    if fs.isFile path then some path else none

def load (fs : FileSystem) (environment : Environment) (root : Path) (named : Option Path) :
    Reporting Event PassError Config := do
  let standard := { standard with root := root }
  let config ←
    if fs.isFile environment.userConfig then do
      .report (.loadingUser environment.userConfig.shown)
      .ofExcept (standard.withFile fs environment.userConfig)
    else pure standard
  match projectFile? fs root named with
  | some path => do
    .report (.loadingProject path.shown)
    .ofExcept (config.withFile fs path)
  | none => pure config

end Config

end RouteTable
