import RouteTable.Text.Break
import RouteTable.Text.Age
import RouteTable.Text.CaseFold

/-!
The sets of characters that a regular expression gives by names: digits, words and blanks, the
classes of ASCII, and the properties of Unicode 16.
-/

namespace RouteTable.Regex

open Text

def negatedIf (negated : Bool) (set : CodePoints) : CodePoints :=
  if negated then set.complement else set

def asciiPoints : CodePoints := .range 0 0x7F

def isAscii (set : CodePoints) : Bool :=
  (set.difference asciiPoints).isEmpty

/-- Characters of words: letters, marks, digits, connectors and joiners. -/
def wordPoints : CodePoints :=
  .unions [alphabeticPoints, markPoints, ndPoints, pcPoints, joinControlPoints]

def isWord (unicode : Bool) (c : Char) : Bool :=
  if c.val < 0x80 then c.isAlphanum || c == '_' else unicode && wordPoints.holds c.toNat

/-- The class that a name in `[:…:]` stands for. -/
def asciiClass? (name : String) : Option CodePoints :=
  match name with
  | "alnum" => some (.ofNumerals [0x000030_000039, 0x000041_00005A, 0x000061_00007A])
  | "alpha" => some (.ofNumerals [0x000041_00005A, 0x000061_00007A])
  | "ascii" => some asciiPoints
  | "blank" => some (.ofNumerals [0x000009_000009, 0x000020_000020])
  | "cntrl" => some (.ofNumerals [0x000000_00001F, 0x00007F_00007F])
  | "digit" => some (.range 0x30 0x39)
  | "graph" => some (.range 0x21 0x7E)
  | "lower" => some (.range 0x61 0x7A)
  | "print" => some (.range 0x20 0x7E)
  | "punct" =>
    some (.ofNumerals [0x000021_00002F, 0x00003A_000040, 0x00005B_000060, 0x00007B_00007E])
  | "space" => some (.ofNumerals [0x000009_00000D, 0x000020_000020])
  | "upper" => some (.range 0x41 0x5A)
  | "word" =>
    some (.ofNumerals [0x000030_000039, 0x000041_00005A, 0x00005F_00005F, 0x000061_00007A])
  | "xdigit" => some (.ofNumerals [0x000030_000039, 0x000041_000046, 0x000061_000066])
  | _ => none

/-- The name of a property or of one of its values as names are compared: without an `is` in
front, spaces, dashes, underscores, and characters outside ASCII, in lower case. -/
def comparedName (name : String) : String :=
  let cs := name.toList
  let lower := cs.map Char.toLower
  let isPrefixed := ['i', 's'].isPrefixOf lower
  let kept := ((if isPrefixed then lower.drop 2 else lower).filter fun c =>
    c.val < 0x80 && c != ' ' && c != '_' && c != '-')
  if isPrefixed && kept == ['c'] then "isc" else String.ofList kept

def namedSet? (sets : List NamedSet) (name : String) : Option CodePoints :=
  (sets.find? (·.names.contains name)).map (·.points)

/-- The set of `\p` with a name alone: a property, a general category or a script. -/
def property? (name : String) : Option CodePoints :=
  let name := comparedName name
  namedSet? binaryProperties name <|> namedSet? categories name <|> namedSet? Text.scripts name

/-- The set of `\p` with the name of a property and one of its values. -/
def propertyValue? (name value : String) : Option CodePoints :=
  let value := comparedName value
  match comparedName name with
  | "generalcategory" | "gc" => namedSet? categories value
  | "script" | "sc" => namedSet? Text.scripts value
  | "scriptextensions" | "scx" => namedSet? (Text.scripts.map extendedScript) value
  | "age" => namedSet? ages value
  | "graphemeclusterbreak" | "gcb" => namedSet? graphemeBreaks value
  | "wordbreak" | "wb" => namedSet? wordBreaks value
  | "sentencebreak" | "sb" => namedSet? sentenceBreaks value
  | _ => none

end RouteTable.Regex
