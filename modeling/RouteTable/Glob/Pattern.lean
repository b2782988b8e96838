import RouteTable.Glob.Segment

/-!
Globs and sets of globs over paths relative to a base directory. A glob is written with `*`, `?`,
`[…]`, `{…,…}` and `\`, and `**` as a whole segment stands for any number of directories.
-/

namespace RouteTable.Glob

/-- A segment of a glob without groups: `**`, or one that matches within a segment of a path. -/
inductive Segment where
  | anyDepth
  | within (pieces : List Piece)
deriving DecidableEq

def Segment.read (text : List Char) : Except Fault Segment :=
  if text = ['*', '*'] then .ok .anyDepth
  else if text.isEmpty then .error .emptySegment
  else (pieces text).map .within

def splitSlashes (text : List Char) : List (List Char) :=
  text.splitOnP (· == '/')

def segments (spelling : List Char) : Except Fault (List Segment) :=
  if spelling.head? = some '/' then .error .absolute
  else (splitSlashes spelling).mapM Segment.read

def slash : Language := .one (.single '/')

def segmentText : Language := .plus (.one (.allBut '/'))

def lineText : Language := .star (.one (.allBut '\n'))

/-- The paths of a list of segments, as languages one after another; `separated` if a slash has to
come before the next segment within a path. A `**` at the end takes any text of one line, elsewhere
any number of whole segments with their slashes. -/
def pathLanguages (separated : Bool) : List Segment → Except Fault (List Language)
  | [] => .ok []
  | [.anyDepth] => .ok [if separated then .optional (.seq slash lineText) else lineText]
  | .anyDepth :: rest => do
    let languages ← pathLanguages separated rest
    let directories := if separated then .seq slash segmentText else .seq segmentText slash
    pure (.star directories :: languages)
  | .within pieces :: rest => do
    let language ← segmentLanguage pieces
    let languages ← pathLanguages true rest
    pure (if separated then slash :: language :: languages else language :: languages)

def pathLanguage (segments : List Segment) : Except Fault Language :=
  (pathLanguages false segments).map .sequence

/-- A glob's text without one `./` in front. -/
def trimmed (glob : List Char) : List Char :=
  if ['.', '/'].isPrefixOf glob then glob.drop 2 else glob

/-- The paths that a glob matches. All its spellings are read before any class of them is. -/
def compile (glob : List Char) : Except Fault Language := do
  let glob := trimmed glob
  if glob.isEmpty then throw .empty
  match spellings glob with
  | none => throw .unclosedGroup
  | some spelled =>
    let read ← spelled.mapM segments
    let languages ← read.mapM pathLanguage
    match languages with
    | [] => throw .empty
    | first :: rest => pure (.anyOf first rest)

end Glob

structure GlobError where
  pattern : String
  fault : Glob.Fault
deriving DecidableEq

def GlobError.message (e : GlobError) : String :=
  "invalid glob pattern `" ++ e.pattern ++ "`: " ++ e.fault.message

structure CompiledGlob where
  source : String
  language : Glob.Language

def CompiledGlob.compile (source : String) : Except GlobError CompiledGlob :=
  match Glob.compile source.toList with
  | .ok language => .ok ⟨source, language⟩
  | .error fault => .error ⟨source, fault⟩

def CompiledGlob.isMatch (glob : CompiledGlob) (path : String) : Bool :=
  glob.language.accepts path.toList

/-- A set of globs. A path matches if it matches any of them. -/
structure GlobSet where
  globs : List CompiledGlob

namespace GlobSet

/-- Compiles globs, up to the first that cannot be. -/
def compile (sources : List String) : Except GlobError GlobSet :=
  (sources.mapM CompiledGlob.compile).map GlobSet.mk

def isMatch (set : GlobSet) (path : String) : Bool :=
  set.globs.any (·.isMatch path)

def firstMatch? (set : GlobSet) (path : String) : Option String :=
  (set.globs.find? (·.isMatch path)).map CompiledGlob.source

def isEmpty (set : GlobSet) : Bool :=
  set.globs.isEmpty

end GlobSet

end RouteTable
