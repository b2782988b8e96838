import RouteTable.Url.Basic
import RouteTable.Url.Host

/-!
Reading a URL from its text, in the normal form: names of schemes and domains in lower case, paths
without `.` and `..`, and characters that a part cannot hold percent-encoded.
-/

namespace RouteTable.Url

open Text

inductive SchemeKind where
  | file
  /-- A scheme with a host, and with this number after its colon unless the URL gives one. -/
  | hosted (portNumber : Nat)
  | other
deriving DecidableEq

def SchemeKind.ofScheme (scheme : String) : SchemeKind :=
  if scheme = "file" then .file
  else if scheme = "http" ∨ scheme = "ws" then .hosted 80
  else if scheme = "https" ∨ scheme = "wss" then .hosted 443
  else if scheme = "ftp" then .hosted 21
  else .other

def SchemeKind.isSlash : SchemeKind → Char → Bool
  | .other, c => c == '/'
  | _, c => c == '/' || c == '\\'

def isControlOrSpace (c : Char) : Bool :=
  c.toNat ≤ 0x20

/-- A text without controls and spaces at its ends. -/
def trimmed (text : List Char) : List Char :=
  ((text.dropWhile isControlOrSpace).reverse.dropWhile isControlOrSpace).reverse

/-- Whether a character is a tab or breaks a line. Such characters do not count as a part of a
URL. -/
def isBreak (c : Char) : Bool :=
  c == '\t' || c == '\n' || c == '\r'

def unbroken (text : List Char) : List Char :=
  text.filter (!isBreak ·)

/-- The text after a slash at the start. -/
def SchemeKind.afterSlash? (kind : SchemeKind) (text : List Char) : Option (List Char) :=
  match text.dropWhile isBreak with
  | c :: rest => if kind.isSlash c then some rest else none
  | [] => none

def isSchemeChar (c : Char) : Bool :=
  c.isAlphanum || c == '+' || c == '-' || c == '.'

/-- The scheme of a URL in lower case, and the text after its colon. -/
def scheme? (text : List Char) : Option (String × List Char) :=
  let isPart (c : Char) : Bool := isSchemeChar c || isBreak c
  match unbroken (text.takeWhile isPart), text.dropWhile isPart with
  | c :: scheme, ':' :: rest =>
    if c.isAlpha then some (String.ofList ((c :: scheme).map Char.toLower), rest) else none
  | _, _ => none

/-- A text before and after the first of a character. -/
def cutAt (mark : Char) (text : List Char) : List Char × Option (List Char) :=
  match text.dropWhile (· != mark) with
  | _ :: after => (text.takeWhile (· != mark), some after)
  | [] => (text, none)

def escapedInQuery : List Char := [' ', '"', '#', '<', '>']

def escapedInFragment : List Char := [' ', '"', '<', '>', '\x60']

def escapedInPath : List Char := [' ', '"', '<', '>', '\x60', '#', '?', '{', '}']

def escapedInUser : List Char :=
  escapedInPath ++ ['/', ':', ';', '=', '@', '[', '\\', ']', '^', '|']

/-- Whether a segment stands for its own directory. -/
def isPoint (segment : List Char) : Bool :=
  segment == ['.'] || segment.map Char.toLower == ['%', '2', 'e']

/-- Whether a segment stands for the directory above. -/
def isTwoPoints (segment : List Char) : Bool :=
  match segment with
  | '.' :: rest => isPoint rest
  | a :: b :: c :: rest => isPoint [a, b, c] && isPoint rest
  | _ => false

/-- Whether a segment is a letter and a colon or a bar, the name of a drive. -/
def isDrive (segment : List Char) : Bool :=
  match segment with
  | [c, mark] => c.isAlpha && (mark == ':' || mark == '|')
  | _ => false

/-- Whether a segment is the name of a drive, perhaps with a backslash after it. -/
def startsWithDrive (segment : List Char) : Bool :=
  isDrive (segment.take 2) && (segment.drop 2).head?.all (· == '\\')

/-- A place in a tree of directories. -/
structure Place where
  /-- The names on the way from the root, the last first. -/
  names : List (List Char)
  /-- Whether the first name is a drive of this machine. -/
  isOnDrive : Bool

namespace Place

def root : Place := ⟨[], false⟩

/-- The directory above a place. Nothing is above the root or above a drive. -/
def up (place : Place) : Place :=
  match place.names with
  | [] => place
  | name :: rest => if startsWithDrive name then place else { place with names := rest }

def down (place : Place) (name : List Char) : Place :=
  { place with names := Percent.encodeText escapedInPath name :: place.names }

/-- Below the root, the name of a drive that a line is broken after is a name by itself, and what
follows in the segment is another. -/
def brokenDrive? (segment : List Char) : Option (List Char × List Char) :=
  let start := segment.dropWhile isBreak
  match start.head?, start.tail.dropWhile isBreak with
  | some c, ':' :: rest =>
    if c.isAlpha && rest.head?.any isBreak && !(unbroken rest).isEmpty then
      some ([c, ':'], unbroken rest)
    else none
  | _, _ => none

/-- The place that a segment leads to. A segment that stands for a directory leads into it when it
is the last. In the path of a file, `hasDrives` tells whether the first name can be a drive. -/
def enter (kind : SchemeKind) (hasDrives isLast : Bool) (place : Place) (segment : List Char) :
    Place :=
  let name := unbroken segment
  let inside (place : Place) : Place := if isLast then place.down [] else place
  if isTwoPoints name then inside place.up
  else if isPoint name then inside place
  else if kind = .file ∧ place.names.isEmpty then
    if hasDrives && isDrive name then ⟨[[name.headD ':', ':']], true⟩
    else
      match brokenDrive? segment with
      | some (drive, rest) => (place.down drive).down rest
      | none => place.down name
  else place.down name

def enterAll (kind : SchemeKind) (hasDrives : Bool) (place : Place) : List (List Char) → Place
  | [] => place
  | segment :: rest =>
    enterAll kind hasDrives (place.enter kind hasDrives rest.isEmpty segment) rest

end Place

/-- Drops the empty segments in front, but not the last segment. -/
def withoutEmptyFront : List (List Char) → List (List Char)
  | [] :: second :: rest => withoutEmptyFront (second :: rest)
  | segments => segments

/-- The place that a path with segments leads to. A slash in front is not a part of the first. -/
def placeOfPath (kind : SchemeKind) (hasDrives : Bool) (path : List Char) : Place :=
  let segments := ((kind.afterSlash? path).getD path).splitOnP kind.isSlash
  Place.root.enterAll kind hasDrives segments

def Place.path (kind : SchemeKind) (place : Place) : List Char :=
  let segments := place.names.reverse
  let segments := if kind = .file then withoutEmptyFront segments else segments
  segments.flatMap ('/' :: ·)

def normalPath (kind : SchemeKind) (path : List Char) : List Char :=
  (placeOfPath kind true path).path kind

/-- The user and the password in front of a host, in normal form. -/
def userText (text : List Char) : List Char :=
  let (user, password) := cutAt ':' text
  let user := Percent.encodeText escapedInUser user
  let password := Percent.encodeText escapedInUser (password.getD [])
  let both := if password.isEmpty then user else user ++ ':' :: password
  if both.isEmpty then [] else both ++ ['@']

/-- The host and, after a colon, the number at the end of an authority. A colon within brackets
separates nothing. -/
def splitPort : (inside : Bool) → List Char → List Char × Option (List Char)
  | _, [] => ([], none)
  | inside, c :: rest =>
    if c = ':' ∧ !inside then ([], some rest)
    else
      let within := if c = '[' then true else if c = ']' then false else inside
      let (host, number) := splitPort within rest
      (c :: host, number)

/-- The text of the number after a host, with its colon, unless it is the scheme's own. -/
def portText? (kind : SchemeKind) : Option (List Char) → Option (List Char)
  | none => some []
  | some [] => some []
  | some digits => do
    let number ← Host.digits? 10 digits
    if 65535 < number then none
    else if kind = .hosted number then pure []
    else pure (':' :: (toString number).toList)

/-- The authority of a URL that is no URL of a file, and what follows its number. The text ends
where a path, a query or a fragment starts, or with the URL if it `isEnd`. -/
def authority? (kind : SchemeKind) (isEnd : Bool) (text : List Char) :
    Option (List Char × List Char) := do
  let place := (text.reverse.takeWhile (· != '@')).reverse
  let hasUser := place.length < text.length
  let user := (text.take (text.length - place.length)).dropLast
  let written := userText user
  if hasUser ∧ place.isEmpty ∧ (!written.isEmpty ∨ (user.isEmpty ∧ !isEnd)) then none
  let (host, number) := splitPort false place
  let host ← match kind with
    | .other => Host.other? host
    | _ => Host.special? host
  if host.isEmpty ∧ number.isSome then none
  let port ← portText? kind (number.map (·.takeWhile (· != '\\')))
  pure (written ++ host ++ port, (number.getD []).dropWhile (· != '\\'))

/-- The authority and the path of a file's URL, from what stands after its scheme. -/
def placeOfFile? (text : List Char) : Option (List Char × List Char) :=
  let kind := SchemeKind.file
  match kind.afterSlash? text with
  | none => some ([], normalPath kind text)
  | some rest =>
    match kind.afterSlash? rest with
    | none => some ([], (placeOfPath kind false text).path kind)
    | some rest =>
      let host := unbroken (rest.takeWhile (!kind.isSlash ·))
      let path := rest.dropWhile (!kind.isSlash ·)
      if isDrive host then some ([], normalPath kind rest)
      else if host.isEmpty then some ([], (placeOfPath kind false path).path kind)
      else do
        let host ← Host.special? host
        let isLocal := host = "localhost".toList
        let place := placeOfPath kind (!isLocal) path
        pure (if isLocal || place.isOnDrive then [] else host, place.path kind)

/-- The authority and the path of a URL, from what stands between its scheme and its query. -/
def place? (kind : SchemeKind) (isEnd : Bool) (text : List Char) :
    Option (Option (List Char) × List Char) :=
  match kind with
  | .file => (placeOfFile? text).map fun (authority, path) => (some authority, path)
  | .hosted _ => do
    let rest := text.dropWhile fun c => kind.isSlash c || isBreak c
    let path := rest.dropWhile (!kind.isSlash ·)
    let (authority, _) ← authority? kind isEnd (unbroken (rest.takeWhile (!kind.isSlash ·)))
    pure (some authority, normalPath kind path)
  | .other =>
    match kind.afterSlash? text with
    | none => some (none, Percent.encodeText [] (unbroken text))
    | some rest =>
      match kind.afterSlash? rest with
      | none => some (none, normalPath kind text)
      | some rest => do
        let path := rest.dropWhile (!kind.isSlash ·)
        let text := unbroken (rest.takeWhile (!kind.isSlash ·))
        let (authority, after) ← authority? kind (isEnd && path.isEmpty) text
        let path := after ++ path
        pure (some authority, if path.isEmpty then [] else normalPath kind path)

def parse? (text : String) : Option Url := do
  let (scheme, rest) ← scheme? (trimmed text.toList)
  let kind := SchemeKind.ofScheme scheme
  let (rest, fragment) := cutAt '#' rest
  let (rest, query) := cutAt '?' rest
  let (authority, path) ← place? kind (fragment.isNone && query.isNone) rest
  let escaped := if kind = .other then escapedInQuery else '\'' :: escapedInQuery
  let encoded (escaped : List Char) (part : List Char) : String :=
    String.ofList (Percent.encodeText escaped (unbroken part))
  pure {
    scheme := scheme
    authority := authority.map String.ofList
    path := String.ofList path
    query := query.map (encoded escaped)
    fragment := fragment.map (encoded escapedInFragment) }

/-- The path of a file's URL. A drive at its end gets a slash. -/
def file? (url : Url) : Option Path :=
  if url.scheme = "file" ∧ url.authority = some "" then
    let bytes := Percent.decode url.path.toList
    match bytes.reverse with
    | mark :: letter :: _ :: _ =>
      let drive := [Char.ofNat letter.toNat, Char.ofNat mark.toNat]
      some ⟨if isDrive drive then bytes ++ [Path.slash] else bytes⟩
    | _ => some ⟨bytes⟩
  else none

end RouteTable.Url
