import RouteTable.Command.Depfile
import RouteTable.Command.Help
import RouteTable.Files.Change
import RouteTable.Pass.Generation
import RouteTable.Settings.Load

/-!
The command: it loads the settings, generates the module of the route table, and prints it or writes
it to a file. An output file that has the right contents already is not written again, and nothing
is written before the module is complete.
-/

namespace RouteTable.Command

structure World where
  fs : FileSystem
  environment : Environment
  /-- The number of workers that can run at once. -/
  available : Nat

/-- Why the command failed: what it could not do, and why, cause behind cause. -/
structure Failure where
  context : String
  causes : List String
deriving DecidableEq

namespace Failure

def indented (blanks : Nat) (text : String) : String :=
  text.replace "\n" ("\n" ++ String.ofList (List.replicate blanks ' '))

def numbered : (number : Nat) → List String → String
  | _, [] => ""
  | number, cause :: rest =>
    "\n" ++ String.ofList (List.replicate (5 - (toString number).length) ' ') ++ toString number ++
      ": " ++ indented 7 cause ++ numbered (number + 1) rest

def text (failure : Failure) : String :=
  "Error: " ++ failure.context ++
    match failure.causes with
    | [] => ""
    | [cause] => "\n\nCaused by:\n    " ++ indented 4 cause
    | causes => "\n\nCaused by:" ++ numbered 0 causes

end Failure

structure Outcome where
  status : Nat
  stdout : String
  stderr : String
  /-- The changes to the files, in order. -/
  changes : List FileChange
  /-- The files after the changes. -/
  fs : FileSystem

/-- A step of the command reports events, and changes to the files. -/
inductive Deed where
  | event (event : Event)
  | change (change : FileChange)

abbrev Step := Reporting Deed Failure

/-- The settings of a run: those of the config files, under those of the arguments. -/
def configure (world : World) (arguments : Arguments) : Step Config := do
  let loading := Config.load world.fs world.environment arguments.rootPath arguments.config
  let config ← loading.relabel .event fun error =>
    ⟨"Failed to load configuration for " ++ arguments.rootPath.shown, error.causes⟩
  pure (arguments.apply config)

def deeds {α : Type} (pass : Pass α) : Step α :=
  ⟨pass.events.map .event,
    pass.outcome.mapError fun error => ⟨"Failed to generate route table", error.causes⟩⟩

/-- A step of the command that changes files. The context says what fails if it does. -/
def changing (context : String) (step : FileSystem.Changing) : Step FileSystem :=
  step.relabel .change fun fault => ⟨context, [fault.message]⟩

def makeParent (fs : FileSystem) (path : Path) : Step FileSystem :=
  match path.parent? with
  | none => pure fs
  | some parent =>
    changing ("Failed to create directory " ++ parent.shown) (fs.makeDirectories parent)

/-- Writes a file, in a directory that is made if it is missing. -/
def writeFile (fs : FileSystem) (path : Path) (contents : List UInt8) : Step FileSystem := do
  let fs ← makeParent fs path
  let fs ← changing ("Failed to write " ++ path.shown) (fs.make (.file path contents))
  .report (.event (.wrote path.shown))
  pure fs

/-- Writes the output file, unless it has these contents. -/
def writeOutput (fs : FileSystem) (path : Path) (text : String) : Step FileSystem :=
  let contents := Text.Utf8.encode text.toList
  match fs.read path with
  | .ok existing =>
    if existing = contents then do
      .report (.event (.upToDate path.shown))
      pure fs
    else writeFile fs path contents
  | .error _ => writeFile fs path contents

def writeDepfile (fs : FileSystem) (path target : Path) (dependencies : List Path) :
    Step FileSystem :=
  changing ("Failed to write depfile " ++ path.shown)
    (fs.make (.file path (Text.Utf8.encode (Depfile.text target dependencies).toList)))

/-- Runs the command with its arguments. The text is what it prints. -/
def perform (world : World) (arguments : Arguments) : Step String := do
  let config ← configure world arguments
  let pass := generateTable .standard world.available config world.fs
  let text ← deeds pass
  match arguments.output with
  | none => pure text
  | some output => do
    let fs ← writeOutput world.fs output text
    match arguments.depfile with
    | none => pure ""
    | some depfile => do
      let _ ← writeDepfile fs depfile output pass.dependencies
      pure ""

def changesOf (deeds : List Deed) : List FileChange :=
  deeds.filterMap fun
    | .change change => some change
    | .event _ => none

def eventsOf (deeds : List Deed) : Log :=
  deeds.filterMap fun
    | .event event => some event
    | .change _ => none

def isShown (verbosity : Nat) (event : Event) : Bool :=
  match event.level with
  | .error => true
  | .warning => true
  | .info => 1 ≤ verbosity
  | .debug => 2 ≤ verbosity
  | .trace => 3 ≤ verbosity

def levelText : Level → String
  | .error => "ERROR"
  | .warning => "WARN "
  | .info => "INFO "
  | .debug => "DEBUG"
  | .trace => "TRACE"

def logLine (event : Event) : String :=
  "[" ++ levelText event.level ++ " " ++ event.topic ++ "] " ++
    Failure.indented 4 event.text ++ "\n"

def Outcome.ofStep (fs : FileSystem) (verbosity : Nat) (step : Step String) : Outcome :=
  let changes := changesOf step.reports
  let log := String.join (((eventsOf step.reports).filter (isShown verbosity)).map logLine)
  let after := fs.perform changes
  match step.outcome with
  | .ok text => ⟨0, text, log, changes, after⟩
  | .error failure => ⟨1, "", log ++ failure.text ++ "\n", changes, after⟩

def run (world : World) (words : List String) : Outcome :=
  match Arguments.read words with
  | .ok arguments => .ofStep world.fs arguments.verbosity (perform world arguments)
  | .error .help => ⟨0, helpText, "", [], world.fs⟩
  | .error .version => ⟨0, versionText, "", [], world.fs⟩
  | .error (.misuse misuse) => ⟨2, "", misuseText misuse, [], world.fs⟩

end RouteTable.Command
