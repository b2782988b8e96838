import RouteTable.Toml.Quoted
import RouteTable.Toml.Scalar
import RouteTable.Toml.Tree

/-!
Reading a TOML document: a table, or nothing if the text is not well formed.
-/

namespace RouteTable.Toml

def afterComment : List Char → List Char
  | '#' :: rest => rest.dropWhile isTextChar
  | text => text

/-- The text after spaces, line breaks and comments. -/
def afterGap : (inComment : Bool) → List Char → List Char
  | _, [] => []
  | _, '\r' :: '\n' :: rest => afterGap false rest
  | _, '\n' :: rest => afterGap false rest
  | true, c :: rest => if isTextChar c then afterGap true rest else c :: rest
  | false, c :: rest =>
    if isSpace c then afterGap false rest
    else if c = '#' then afterGap true rest
    else c :: rest

/-- The text after the end of a line, which may have a comment. -/
def afterLine? (text : List Char) : Option (List Char) :=
  match afterComment (text.dropWhile isSpace) with
  | [] => some []
  | rest => afterBreak? rest

def isBareKeyChar (c : Char) : Bool :=
  c.isAlphanum || c == '_' || c == '-'

def readSimpleKey (text : List Char) : Option (String × List Char) :=
  match readShortString text with
  | some (key, rest) => some (String.ofList key, rest)
  | none =>
    let key := text.takeWhile isBareKeyChar
    if key.isEmpty then none else some (String.ofList key, text.dropWhile isBareKeyChar)

/-- Reads keys with points between them, with at most `count` points: the keys before the last, the
last, and the text after it and after spaces. -/
def readKey : (count : Nat) → List Char → Option (List String × String × List Char)
  | 0, _ => none
  | count + 1, text => do
    let (key, rest) ← readSimpleKey (text.dropWhile isSpace)
    match rest.dropWhile isSpace with
    | '.' :: rest =>
      let (path, last, rest) ← readKey count rest
      pure (key :: path, last, rest)
    | rest => pure ([], key, rest)

def readItems (readValue : List Char → Option (Value × List Char)) :
    (count : Nat) → List Char → Option (List Value × List Char)
  | 0, _ => none
  | count + 1, text =>
    match afterGap false text with
    | ']' :: rest => some ([], rest)
    | text => do
      let (value, rest) ← readValue text
      match afterGap false rest with
      | ',' :: rest =>
        let (values, rest) ← readItems readValue count rest
        pure (value :: values, rest)
      | ']' :: rest => some ([value], rest)
      | _ => none

/-- Reads the entries of a table in braces up to the closing brace. Lines may end anywhere but
within a key. -/
def readEntries (readValue : List Char → Option (Value × List Char)) :
    (count : Nat) → Entries → List Char → Option (Entries × List Char)
  | 0, _, _ => none
  | count + 1, entries, text =>
    match afterGap false text with
    | '}' :: rest => some (entries, rest)
    | text => do
      let (path, key, rest) ← readKey text.length text
      let '=' :: rest := afterGap false rest | none
      let (value, rest) ← readValue (afterGap false rest)
      let entries ← set key value path entries
      match afterGap false rest with
      | ',' :: rest => readEntries readValue count entries rest
      | '}' :: rest => some (entries, rest)
      | _ => none

/-- Reads a value. Brackets and braces nest at most `depth` times. -/
def readValue : (depth : Nat) → List Char → Option (Value × List Char)
  | depth, text =>
    match readString text with
    | some (s, rest) => some (.string (String.ofList s), rest)
    | none =>
      match depth, text with
      | depth + 1, '[' :: rest => do
        let (items, rest) ← readItems (readValue depth) text.length rest
        pure (.array items, rest)
      | depth + 1, '{' :: rest => do
        let (entries, rest) ← readEntries (readValue depth) text.length [] rest
        pure (.table .inline entries, rest)
      | _, _ => do
        let (word, rest) := readWord text
        let value ← scalar? word
        pure (value, rest)

/-- The greatest depth of brackets and braces in each other. -/
def maximalDepth : Nat := 80

/-- Reads the header of a table or of an element of a list of tables, after its first bracket: the
path of the table, the document with it, and the text after the header's last bracket. -/
def readHeader (entries : Entries) (text : List Char) :
    Option (List String × Entries × List Char) := do
  match text with
  | '[' :: rest =>
    let (path, key, rest) ← readKey text.length rest
    let ']' :: ']' :: rest := rest | none
    let entries ← append key path entries
    pure (path ++ [key], entries, rest)
  | _ =>
    let (path, key, rest) ← readKey text.length text
    let ']' :: rest := rest | none
    let entries ← declare key path entries
    pure (path ++ [key], entries, rest)

/-- Reads the lines of a document, at most `count` of them, in the table that `header` leads to. -/
def readLines : (count : Nat) → (header : List String) → Entries → List Char → Option Entries
  | 0, _, _, _ => none
  | count + 1, header, entries, text =>
    match afterGap false text with
    | [] => some entries
    | '[' :: rest => do
      let (header, entries, rest) ← readHeader entries rest
      let rest ← afterLine? rest
      readLines count header entries rest
    | text => do
      let (path, key, rest) ← readKey text.length text
      let '=' :: rest := rest | none
      let (value, rest) ← readValue maximalDepth (rest.dropWhile isSpace)
      let entries ← within (set key value path) header entries
      let rest ← afterLine? rest
      readLines count header entries rest

/-- The table that a document spells. A mark for the order of bytes may stand in front. -/
def parse? (document : String) : Option Entries :=
  let text := match document.toList with
    | '\uFEFF' :: rest => rest
    | text => text
  readLines (text.length + 1) [] [] text

/-- Whether a text is a document whose integers are all representable. -/
def isPlain (document : String) : Bool :=
  (parse? document).any entriesAreRepresentable

end RouteTable.Toml
