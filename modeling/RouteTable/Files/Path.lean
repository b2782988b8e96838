import RouteTable.Text.Utf8

/-!
Paths as sequences of bytes. A slash separates names, a name that is a single point stands for
nothing, and a path that starts with a slash is absolute.
-/

namespace RouteTable

open Text

/-- A name in a directory: any bytes but a slash. -/
abbrev FileName := List UInt8

namespace FileName

def ofString (name : String) : FileName :=
  Utf8.encode name.toList

def text? (name : FileName) : Option String :=
  (Utf8.decode? name).map String.ofList

/-- Whether a name is a text that starts with a point. -/
def isHidden (name : FileName) : Bool :=
  match Utf8.decode? name with
  | some ('.' :: _) => true
  | _ => false

end FileName

structure Path where
  bytes : List UInt8
deriving DecidableEq, Inhabited

namespace Path

def slash : UInt8 := 0x2F

def point : UInt8 := 0x2E

def ofString (path : String) : Path :=
  ⟨Utf8.encode path.toList⟩

def shown (path : Path) : String :=
  String.ofList (Utf8.decodeLossy path.bytes)

def isAbsolute (path : Path) : Bool :=
  path.bytes.head? = some slash

def isEmpty (path : Path) : Bool :=
  path.bytes.isEmpty

/-- The pieces between the slashes of some bytes. -/
def pieces (bytes : List UInt8) : List FileName :=
  bytes.splitOnP (· == slash)

def isName (piece : FileName) : Bool :=
  !piece.isEmpty && piece != [point]

/-- The names of a path. Two points are a name as any other. -/
def names (path : Path) : List FileName :=
  (pieces path.bytes).filter isName

inductive Ending where
  | name
  /-- Slashes after a name. -/
  | slash
  /-- A point that is no part of a name. -/
  | point
deriving DecidableEq

def ending (path : Path) : Ending :=
  match (pieces path.bytes).reverse with
  | [] => .name
  | last :: before =>
    if isName last then .name
    else if ((last :: before).dropWhile List.isEmpty).head? = some [point] then .point
    else .slash

/-- How a path ends that has another in the place of its last name. -/
def Ending.after : Ending → Ending → Ending
  | .point, _ => .point
  | _, .point => .point
  | .slash, _ => .slash
  | _, .slash => .slash
  | .name, .name => .name

/-- A path inside another. An absolute path stays as it is. -/
def join (path inner : Path) : Path :=
  if inner.isAbsolute then inner
  else if path.bytes.getLast?.all (· == slash) then ⟨path.bytes ++ inner.bytes⟩
  else ⟨path.bytes ++ slash :: inner.bytes⟩

def ofNames : List FileName → Path
  | [] => ⟨[slash]⟩
  | names => ⟨names.flatMap (slash :: ·)⟩

/-- The start of a path that is no name of the rest: the slash of an absolute path, or the point of
one that starts with a point and a slash. -/
def lead (path : Path) : List UInt8 :=
  match pieces path.bytes with
  | [] :: _ :: _ => [slash]
  | [0x2E] :: _ => [point]
  | _ => []

def trimmed (pieces : List FileName) : List FileName :=
  (pieces.reverse.dropWhile (!isName ·)).reverse

/-- The path without its last name. The root has no such path. -/
def parent? (path : Path) : Option Path :=
  match (trimmed (pieces (path.bytes.drop path.lead.length))).dropLast, path.names.isEmpty with
  | _, true => if path.lead = [point] then some ⟨[]⟩ else none
  | rest, false => some ⟨path.lead ++ [slash].intercalate (trimmed rest)⟩

end Path

end RouteTable
