/-!
What a pass reports while it works. Each report is an event; its text, its severity and the part of
the program that it belongs to follow from the event.
-/

namespace RouteTable

inductive Level where
  | error
  | warning
  | info
  | debug
  | trace
deriving DecidableEq

/-- The list of modules that a route's plan keeps a name for. -/
inductive Channel where
  | sync
  | async
deriving DecidableEq

def Channel.word : Channel → String
  | .sync => "sync"
  | .async => "async"

/-- Paths are as they are shown; routes are paths relative to the base directory. -/
inductive Event where
  | exported (path name : String)
  | exportedAgain (path name : String)
  | discovering (base : String)
  | skipped (path : String)
  | ignored (route pattern : String)
  | discovered (count : Nat)
  | analyzing (count workers : Nat)
  | inventoried (route : String) (names : List String)
  | dropped (route name : String) (channel : Channel)
  | imported (route statement : String)
  | generated (entries bytes : Nat)
  | loadingUser (path : String)
  | loadingProject (path : String)
  | upToDate (path : String)
  | wrote (path : String)
deriving DecidableEq

namespace Event

def level : Event → Level
  | .exportedAgain .. | .skipped .. => .warning
  | .generated .. | .upToDate .. | .wrote .. => .info
  | .discovering .. | .discovered .. | .analyzing .. | .inventoried .. | .dropped ..
  | .loadingUser .. | .loadingProject .. => .debug
  | .exported .. | .ignored .. | .imported .. => .trace

/-- The part of the program that reports the event, as its log lines name it. -/
def topic : Event → String
  | .exported .. | .exportedAgain .. => "fsroutes::analyzers::export_collector"
  | .inventoried .. => "fsroutes::analyzers"
  | .discovering .. | .skipped .. | .ignored .. | .discovered .. => "fsroutes::discovery"
  | .analyzing .. | .generated .. => "fsroutes::orchestrator"
  | .dropped .. => "fsroutes::binding_plan"
  | .imported .. => "fsroutes::code_generator"
  | .loadingUser .. | .loadingProject .. => "fsroutes::config"
  | .upToDate .. | .wrote .. => "fsroutes"

def text : Event → String
  | .exported path name => path ++ ": export `" ++ name ++ "`"
  | .exportedAgain path name =>
      path ++ ": `" ++ name ++ "` is exported more than once, keeping the first occurrence"
  | .discovering base => "Discovering route files under " ++ base
  | .skipped path => "Skipping non UTF-8 path " ++ path
  | .ignored route pattern => "Ignoring " ++ route ++ " (matches `" ++ pattern ++ "`)"
  | .discovered count => "Discovered " ++ toString count ++ " route files"
  | .analyzing count workers =>
      "Analyzing " ++ toString count ++ " files on " ++ toString workers ++ " workers"
  | .inventoried route names => route ++ ": exports [" ++ ", ".intercalate names ++ "]"
  | .dropped route name channel =>
      route ++ ": `" ++ name ++ "` is not exported, dropped from " ++ channel.word ++ " plan"
  | .imported route statement => route ++ ": " ++ statement
  | .generated entries bytes =>
      "Generated route table with " ++ toString entries ++ " entries (" ++ toString bytes ++
        " bytes)"
  | .loadingUser path => "Loading user config from " ++ path
  | .loadingProject path => "Loading project config from " ++ path
  | .upToDate path => path ++ " is up to date"
  | .wrote path => "Wrote " ++ path

end Event

abbrev Log := List Event

end RouteTable
