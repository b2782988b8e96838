import RouteTable.Files.Path
import RouteTable.Text.Percent

/-!
URLs by their parts, and URLs of files. The URL of a file has the file's names as its path, each
byte of them written so that it cannot be read as anything else.
-/

namespace RouteTable

open Text

/-- A URL. The authority is what stands between two slashes and the path. -/
structure Url where
  scheme : String
  authority : Option String
  path : String
  query : Option String
  fragment : Option String
deriving DecidableEq

namespace Url

/-- The text of a URL. A path with two slashes in front is kept from being read as an authority. -/
def text (url : Url) : String :=
  let authority := match url.authority with
    | some authority => "//" ++ authority
    | none => if url.path.startsWith "//" then "/." else ""
  let query := match url.query with
    | some query => "?" ++ query
    | none => ""
  let fragment := match url.fragment with
    | some fragment => "#" ++ fragment
    | none => ""
  url.scheme ++ ":" ++ authority ++ url.path ++ query ++ fragment

def withQuery (url : Url) (query : String) : Url :=
  { url with query := some query }

def escapedInName : List Char :=
  [' ', '"', '<', '>', '\x60', '#', '?', '{', '}', '/', '%', '\\']

def segment (name : FileName) : List Char :=
  '/' :: Percent.encode escapedInName name

def pathOfNames : List FileName → List Char
  | [] => ['/']
  | names => names.flatMap segment

def ofFile? (path : Path) : Option Url :=
  if path.isAbsolute then
    some ⟨"file", some "", String.ofList (pathOfNames path.names), none, none⟩
  else none

/-- The URL of the same module, loaded when it is asked for. -/
def deferred (url : Url) : Url :=
  url.withQuery "async"

end Url

end RouteTable
