/-!
The router's pattern for the path of a route file: brackets around a name make a parameter, a name
with three points in front catches all that is left, the extension goes, and `index` stands for its
directory.
-/

namespace RouteTable.Pattern

/-- Starts a path with a slash, in place of `./` or of any slashes there. -/
def rooted (path : List Char) : List Char :=
  '/' :: match path with
    | '.' :: '/' :: rest => rest
    | _ => path.dropWhile (· == '/')

def isNameChar (c : Char) : Bool :=
  c != ']' && c != '/'

/-- The bracketed name that a text starts with, after an opening, and the text after its closing
bracket. The name has one character or more. -/
def bracketed? (opening text : List Char) : Option (List Char × List Char) :=
  if opening.isPrefixOf text then
    match (text.drop opening.length).takeWhile isNameChar,
        (text.drop opening.length).dropWhile isNameChar with
    | c :: name, ']' :: rest => some (c :: name, rest)
    | _, _ => none
  else none

theorem length_bracketed?_lt {opening text : List Char} {result : List Char × List Char}
    (h : bracketed? opening text = some result) : result.2.length < text.length := by
  unfold bracketed? at h
  split at h
  · split at h
    · rename_i c name rest hname hrest
      cases h
      have hle := (List.dropWhile_sublist isNameChar (l := text.drop opening.length)).length_le
      rw [hrest, List.length_drop] at hle
      simp only [List.length_cons] at hle ⊢
      omega
    · cases h
  · cases h

/-- Writes each bracketed name of a text in another way, from the left. -/
def replaceBracketed (opening : List Char) (written : List Char → List Char) (text : List Char) :
    List Char :=
  match text with
  | [] => []
  | c :: rest =>
    match _h : bracketed? opening (c :: rest) with
    | some (name, after) => written name ++ replaceBracketed opening written after
    | none => c :: replaceBracketed opening written rest
termination_by text.length
decreasing_by
  · exact length_bracketed?_lt _h
  · simp

/-- A name with three points catches everything. -/
def catchAlls : List Char → List Char :=
  replaceBracketed ['[', '.', '.', '.'] fun _ => ['*']

/-- A name in brackets is a parameter. -/
def parameters : List Char → List Char :=
  replaceBracketed ['['] (':' :: ·)

def isExtensionChar (c : Char) : Bool :=
  c != '.' && c != '/'

/-- Drops what comes after the last point, and the point, unless that is nothing or the point is the
first character of its segment. -/
def dropExtension (path : List Char) : List Char :=
  match path.reverse.takeWhile isExtensionChar, path.reverse.dropWhile isExtensionChar with
  | _ :: _, '.' :: c :: front => if c = '/' then path else (c :: front).reverse
  | _, _ => path

/-- A path that ends in the segment `index` ends in its slash instead. -/
def collapseIndex (path : List Char) : List Char :=
  if ['/', 'i', 'n', 'd', 'e', 'x'].isSuffixOf path then path.take (path.length - 5) else path

def ofPath (path : String) : String :=
  let slashed := path.toList.map fun c => if c = '\\' then '/' else c
  String.ofList (collapseIndex (dropExtension (parameters (catchAlls (rooted slashed)))))

end RouteTable.Pattern
