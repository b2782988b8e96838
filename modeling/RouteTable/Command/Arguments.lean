import RouteTable.Settings.Config

/-!
The arguments of the command line. They are read from left to right, and what is noticed first
decides: an argument that is no option, an option without its value, or a request for help.
-/

namespace RouteTable.Command

inductive ValueOption where
  | root
  | config
  | base
  | pattern
  | ignore
  | importSync
  | importAsync
  | workers
  | output
  | depfile
deriving DecidableEq

namespace ValueOption

def all : List ValueOption :=
  [.root, .config, .base, .pattern, .ignore, .importSync, .importAsync, .workers, .output, .depfile]

/-- The option's name after two dashes. -/
def word : ValueOption → String
  | .root => "root"
  | .config => "config"
  | .base => "base"
  | .pattern => "pattern"
  | .ignore => "ignore"
  | .importSync => "import-sync"
  | .importAsync => "import-async"
  | .workers => "workers"
  | .output => "output"
  | .depfile => "depfile"

def letter? : ValueOption → Option Char
  | .config => some 'c'
  | .output => some 'o'
  | _ => none

def valueName : ValueOption → String
  | .root => "ROOT"
  | .config => "CONFIG"
  | .base => "BASE"
  | .pattern => "GLOB"
  | .ignore => "GLOB"
  | .importSync => "all|NAMES"
  | .importAsync => "NAMES"
  | .workers => "WORKERS"
  | .output => "OUTPUT"
  | .depfile => "DEPFILE"

end ValueOption

inductive Misuse where
  | unexpected (argument : String)
  | missingValue (option : ValueOption)
  | unexpectedValue (argument : String)
  | repeated (option : String)
  | invalidValue (option : ValueOption) (value : String)
  /-- A dependency file is asked for without an output file. -/
  | missingOutput
deriving DecidableEq

def Misuse.message : Misuse → String
  | .unexpected argument => "unexpected argument '" ++ argument ++ "' found"
  | .missingValue option =>
      "a value is required for '--" ++ option.word ++ " <" ++ option.valueName ++
        ">' but none was supplied"
  | .unexpectedValue argument => "unexpected value in '" ++ argument ++ "'"
  | .repeated option => "the argument '--" ++ option ++ "' cannot be used multiple times"
  | .invalidValue option value =>
      "invalid value '" ++ value ++ "' for '--" ++ option.word ++ " <" ++ option.valueName ++ ">'"
  | .missingOutput => "the argument '--output <OUTPUT>' is required with '--depfile <DEPFILE>'"

/-- Why there is nothing to run. -/
inductive Stop where
  | help
  | version
  | misuse (misuse : Misuse)
deriving DecidableEq

structure Arguments where
  root : Option Path
  config : Option Path
  base : Option String
  patterns : List String
  ignored : List String
  sync : Option String
  deferred : Option String
  workers : Option WorkerCount
  hidden : Bool
  output : Option Path
  depfile : Option Path
  verbosity : Nat
deriving DecidableEq

namespace Arguments

def none : Arguments :=
  ⟨.none, .none, .none, [], [], .none, .none, .none, false, .none, .none, 0⟩

/-- The value of an option that may be given once. -/
def once {α : Type} (option : ValueOption) (old : Option α) (value : α) : Except Stop (Option α) :=
  if old.isSome then .error (.misuse (.repeated option.word)) else .ok (some value)

/-- A path, which has one character at least. -/
def path (option : ValueOption) (value : String) : Except Stop Path :=
  if value.isEmpty then .error (.misuse (.invalidValue option value)) else .ok (.ofString value)

/-- A positive number that fits into 64 bits. A plus sign may stand in front. -/
def count (value : String) : Except Stop WorkerCount :=
  let digits := match value.toList with
    | '+' :: digits => digits
    | digits => digits
  let n : Nat := digits.foldl (fun n c => 10 * n + (c.toNat - '0'.toNat)) 0
  if h : !digits.isEmpty && digits.all Char.isDigit && decide (0 < n) &&
      decide (n < UInt64.size) then
    .ok ⟨n, by simp at h; omega⟩
  else .error (.misuse (.invalidValue .workers value))

def set (arguments : Arguments) (option : ValueOption) (value : String) : Except Stop Arguments :=
  match option with
  | .root => do
    pure { arguments with root := ← once .root arguments.root (← path .root value) }
  | .config => do
    pure { arguments with config := ← once .config arguments.config (← path .config value) }
  | .base => do pure { arguments with base := ← once .base arguments.base value }
  | .pattern => .ok { arguments with patterns := arguments.patterns ++ [value] }
  | .ignore => .ok { arguments with ignored := arguments.ignored ++ [value] }
  | .importSync => do pure { arguments with sync := ← once .importSync arguments.sync value }
  | .importAsync => do
    pure { arguments with deferred := ← once .importAsync arguments.deferred value }
  | .workers => do
    pure { arguments with workers := ← once .workers arguments.workers (← count value) }
  | .output => do
    pure { arguments with output := ← once .output arguments.output (← path .output value) }
  | .depfile => do
    pure { arguments with depfile := ← once .depfile arguments.depfile (← path .depfile value) }

def setHidden (arguments : Arguments) : Except Stop Arguments :=
  if arguments.hidden then .error (.misuse (.repeated "dot"))
  else .ok { arguments with hidden := true }

def moreVerbose (arguments : Arguments) : Arguments :=
  { arguments with verbosity := arguments.verbosity + 1 }

/-- The arguments that one argument leads to, or the option that the next has to be the value of. -/
inductive Progress where
  | done (arguments : Arguments)
  | needsValue (arguments : Arguments) (option : ValueOption)

/-- Reads the letters after one dash. What follows the letter of an option with a value is the
value. -/
def readLetters (arguments : Arguments) : List Char → Except Stop Progress
  | [] => .ok (.done arguments)
  | 'v' :: rest => readLetters arguments.moreVerbose rest
  | 'h' :: _ => .error .help
  | 'V' :: _ => .error .version
  | c :: rest =>
    match ValueOption.all.find? (·.letter? == some c), rest with
    | .none, _ => .error (.misuse (.unexpected (String.ofList ['-', c])))
    | some option, [] => .ok (.needsValue arguments option)
    | some option, '=' :: value => (arguments.set option (String.ofList value)).map .done
    | some option, value => (arguments.set option (String.ofList value)).map .done

/-- Reads the word after two dashes, with the value after an equals sign. -/
def readWord (arguments : Arguments) (text : List Char) : Except Stop Progress :=
  let word := String.ofList (text.takeWhile (· != '='))
  let argument := "--" ++ word
  match ValueOption.all.find? (·.word == word), text.dropWhile (· != '=') with
  | some option, _ :: value => (arguments.set option (String.ofList value)).map .done
  | some option, [] => .ok (.needsValue arguments option)
  | .none, value =>
    if word = "dot" ∨ word = "verbose" ∨ word = "help" ∨ word = "version" then
      if !value.isEmpty then .error (.misuse (.unexpectedValue argument))
      else if word = "dot" then arguments.setHidden.map .done
      else if word = "verbose" then .ok (.done arguments.moreVerbose)
      else .error (if word = "help" then .help else .version)
    else .error (.misuse (.unexpected argument))

/-- Whether an argument can be the value of the option before it. A dash alone can. -/
def isValue (argument : String) : Bool :=
  match argument.toList with
  | '-' :: _ :: _ => false
  | _ => true

/-- Reads one argument that is no value. -/
def readOne (arguments : Arguments) (argument : String) : Except Stop Progress :=
  match argument.toList with
  | '-' :: '-' :: text => readWord arguments text
  | '-' :: c :: letters => readLetters arguments (c :: letters)
  | _ => .error (.misuse (.unexpected argument))

def readFrom (arguments : Arguments) : List String → Except Stop Arguments
  | [] => .ok arguments
  | argument :: rest =>
    if argument = "--" then
      match rest with
      | [] => .ok arguments
      | extra :: _ => .error (.misuse (.unexpected extra))
    else
      match readOne arguments argument, rest with
      | .error stop, _ => .error stop
      | .ok (.done arguments), rest => readFrom arguments rest
      | .ok (.needsValue _ option), [] => .error (.misuse (.missingValue option))
      | .ok (.needsValue arguments option), value :: rest =>
        if isValue value then
          match arguments.set option value with
          | .ok arguments => readFrom arguments rest
          | .error stop => .error stop
        else .error (.misuse (.missingValue option))

def read (words : List String) : Except Stop Arguments := do
  let arguments ← readFrom .none words
  if arguments.depfile.isSome && arguments.output.isNone then .error (.misuse .missingOutput)
  else pure arguments

/-- The root of the project: the directory that the command runs in, unless another is named. -/
def rootPath (arguments : Arguments) : Path :=
  arguments.root.getD (.ofString ".")

/-- Settings with what the arguments say about them. Globs replace those that there are. -/
def apply (arguments : Arguments) (config : Config) : Config :=
  { config with
    base := arguments.base.getD config.base
    patterns := if arguments.patterns.isEmpty then config.patterns else arguments.patterns
    ignored := if arguments.ignored.isEmpty then config.ignored else arguments.ignored
    sync := (arguments.sync.map SyncChoice.parse).getD config.sync
    deferred := (arguments.deferred.map nameList).getD config.deferred
    workers := arguments.workers.or config.workers
    hidden := arguments.hidden || config.hidden }

end Arguments

end RouteTable.Command
