import RouteTable.Log
import RouteTable.Pass.Error

/-!
What a pass tells its host: what it is doing, and the directories and files that its result depends
on. A directory is named for the files in it, a file for its contents.
-/

namespace RouteTable

inductive Notice where
  | event (event : Event)
  | directory (path : Path)
  | file (path : Path)

abbrev Pass := Reporting Notice PassError

namespace Pass

variable {α : Type}

def log (event : Event) : Pass Unit :=
  .report (.event event)

def dependOnDirectory (path : Path) : Pass Unit :=
  .report (.directory path)

def dependOnFile (path : Path) : Pass Unit :=
  .report (.file path)

def events (pass : Pass α) : Log :=
  pass.reports.filterMap fun
    | .event event => some event
    | _ => none

def directories (pass : Pass α) : List Path :=
  pass.reports.filterMap fun
    | .directory path => some path
    | _ => none

def files (pass : Pass α) : List Path :=
  pass.reports.filterMap fun
    | .file path => some path
    | _ => none

/-- All that the result depends on, directories first. -/
def dependencies (pass : Pass α) : List Path :=
  pass.directories ++ pass.files

def ofLogged {ε : Type} (errorOf : ε → PassError) (step : Reporting Event ε α) : Pass α :=
  step.relabel .event errorOf

end Pass

end RouteTable
