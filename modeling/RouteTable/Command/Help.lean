import RouteTable.Command.Arguments

/-!
What the command says about itself.
-/

namespace RouteTable.Command

def name : String := "fsroutes"

def versionText : String := name ++ " 0.1.0\n"

def ValueOption.purpose : ValueOption → String
  | .root =>
      "Project root; relative bases and the default config file are resolved against it " ++
        "[default: .]"
  | .config => "Config file to use instead of `<root>/fsroutes.toml`"
  | .base => "Directory to search for route files (path or file: URL)"
  | .pattern => "Include glob, may be repeated"
  | .ignore => "Exclude glob, may be repeated"
  | .importSync => "`all`, or a comma separated list of exports bound eagerly"
  | .importAsync => "Comma separated list of exports fetched on demand"
  | .workers => "Number of analysis threads"
  | .output => "Output file; the module is written to stdout when omitted"
  | .depfile => "Write a Make-style dependency file for the output"

def helpLine (letter? : Option Char) (word purpose : String) : String :=
  let letters := match letter? with
    | some c => String.ofList ['-', c, ',', ' ']
    | none => "    "
  let front := "  " ++ letters ++ "--" ++ word
  front ++ String.ofList (List.replicate (34 - front.length) ' ') ++ purpose ++ "\n"

def ValueOption.line (option : ValueOption) : String :=
  helpLine option.letter? (option.word ++ " <" ++ option.valueName ++ ">") option.purpose

def usage : String := "Usage: " ++ name ++ " [OPTIONS]\n"

def helpText : String :=
  let (front, back) := ValueOption.all.span (· != .output)
  "Generate a route table module from a directory of route files\n\n" ++ usage ++ "\nOptions:\n" ++
  String.join (front.map ValueOption.line) ++
  helpLine none "dot" "Search hidden files and directories too" ++
  String.join (back.map ValueOption.line) ++
  helpLine (some 'v') "verbose..." "Increase log verbosity (-v info, -vv debug, -vvv trace)" ++
  helpLine (some 'h') "help" "Print help" ++
  helpLine (some 'V') "version" "Print version"

def misuseText (misuse : Misuse) : String :=
  "error: " ++ misuse.message ++ "\n\n" ++ usage ++ "\nFor more information, try '--help'.\n"

end RouteTable.Command
