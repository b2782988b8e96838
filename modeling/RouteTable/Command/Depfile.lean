import RouteTable.Files.Path

/-!
Dependency files: a rule that names a target and all that it depends on, one to a line.
-/

namespace RouteTable.Command.Depfile

def escapedChar (c : Char) : List Char :=
  if c = ' ' ∨ c = '#' then ['\\', c]
  else if c = '$' then ['$', '$']
  else [c]

def escaped (path : Path) : List Char :=
  path.shown.toList.flatMap escapedChar

def separator : List Char := [' ', '\\', '\n', ' ', ' ']

def text (target : Path) (dependencies : List Path) : String :=
  String.ofList
    (escaped target ++
      ':' :: dependencies.flatMap (fun path => separator ++ escaped path) ++ ['\n'])

end RouteTable.Command.Depfile
