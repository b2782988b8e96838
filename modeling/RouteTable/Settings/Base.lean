import RouteTable.Pass.Error
import RouteTable.Url.Reading

/-!
The base directory of a pass: a directory that there is, given as a path or as the URL of a file.
-/

namespace RouteTable

namespace Config

def basePath (config : Config) : Except PassError Path :=
  if config.base.startsWith "file:" then
    match (Url.parse? config.base).bind Url.file? with
    | some path => .ok path
    | none => .error (.base (.ofString config.base) .notFileUrl)
  else .ok (config.root.join (.ofString config.base))

def baseLocation (config : Config) (fs : FileSystem) : Except PassError Location := do
  let path ← config.basePath
  match fs.locate path with
  | .error .notFound => .error (.base path .missing)
  | .error fault => .error (.base path (.unreachable fault))
  | .ok location =>
    if fs.isDirectory location.path then .ok location
    else .error (.base location.path .notDirectory)

end Config

end RouteTable
