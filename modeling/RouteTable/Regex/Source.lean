import RouteTable.Regex.Expression
import RouteTable.Text.Alphabetic
import RouteTable.Text.Blank
import RouteTable.Text.Hexadecimal

/-!
The text of a regular expression as it is read, the flags in force, and the parts whose reading
needs no look at the whole: numbers, escapes, names and flags.
-/

namespace RouteTable.Regex

inductive Fault where
  | unexpectedEnd
  | unopenedGroup
  | unclosedGroup
  | emptyName
  | invalidName
  | repeatedName
  | lookAround
  | unknownFlag
  | repeatedFlag
  | danglingNegation
  | missingOperand
  | invalidCount
  | unclosedCount
  | backreference
  | unknownEscape
  | invalidHexadecimal
  | unknownWordBoundary
  | unclosedClass
  | invalidClassItem
  | invalidRange
  | unknownProperty
  /-- A class of bytes, or a byte, that is not of ASCII. -/
  | notAscii
  | tooDeep
  | tooLarge
deriving DecidableEq

/-- A message about a fault. All faults of the text have one in common. -/
def Fault.message : Fault → String
  | tooLarge => "Compiled regex exceeds size limit of 10485760 bytes."
  | _ => "regex parse error:"

structure Flags where
  caseless : Bool
  multiLine : Bool
  dotAll : Bool
  swapGreed : Bool
  unicode : Bool
  wideLines : Bool
  /-- White space and comments between the parts of the expression are passed over. -/
  verbose : Bool

def Flags.initial : Flags :=
  ⟨false, false, false, false, true, false, false⟩

abbrev Reading := Except Fault

/-- Passes white space and comments, in a verbose expression. -/
def skipBlank (verbose : Bool) : List Char → List Char
  | [] => []
  | c :: s =>
    if !verbose then c :: s
    else if Text.isBlank c then skipBlank verbose s
    else if c == '#' then skipComment s
    else c :: s
where
  /-- Passes the rest of a comment, and what may be passed after it. -/
  skipComment : List Char → List Char
    | [] => []
    | c :: s => if c == '\n' then skipBlank verbose s else skipComment s

/-- The place after the character under the cursor, and after blanks. -/
def afterNext (verbose : Bool) (s : List Char) : List Char :=
  skipBlank verbose s.tail

def readDecimal (verbose : Bool) (s : List Char) : Reading (Nat × List Char) :=
  let start := s.dropWhile Text.isBlank
  let (digits, rest) := digitsFrom start.length start
  if digits.isEmpty then .error .invalidCount
  else
    let n := digits.foldl (fun n c => 10 * n + (c.toNat - '0'.toNat)) 0
    if n < UInt32.size then .ok (n, rest.dropWhile Text.isBlank) else .error .invalidCount
where
  /-- At most `n` digits from the start of a text, and the rest. -/
  digitsFrom : Nat → List Char → List Char × List Char
    | 0, s => ([], s)
    | n + 1, s =>
      match s with
      | c :: _ =>
        if c.isDigit then
          let (digits, rest) := digitsFrom n (afterNext verbose s)
          (c :: digits, rest)
        else ([], s)
      | [] => ([], s)

inductive Escape where
  | literal (c : Char)
  /-- A character given by two hexadecimal digits: a byte, where classes are of bytes. -/
  | byte (c : Char)
  | digits (negated : Bool)
  | blanks (negated : Bool)
  | words (negated : Bool)
  | property (negated : Bool) (chars : Option Text.CodePoints)
  | textStart
  | textFinish
  | boundary
  | notBoundary
  | wordStart
  | wordFinish
  | wordStartHalf
  | wordFinishHalf

/-- The characters that mean something in a regular expression, and can be escaped for that. -/
def metaCharacters : List Char :=
  ['\\', '.', '+', '*', '?', '(', ')', '|', '[', ']', '{', '}', '^', '$', '#', '&', '-', '~']

/-- Characters that may be escaped though they mean nothing: those of ASCII that are no letters, no
digits and no angle brackets. -/
def isEscapable (c : Char) : Bool :=
  metaCharacters.contains c || c.val < 0x80 && !c.isAlphanum && c != '<' && c != '>'

def hexadecimalCharacter (digits : List Char) : Reading Char :=
  if digits.isEmpty || !digits.all (fun c => (Text.hexadecimalDigit? c).isSome) then
    .error .invalidHexadecimal
  else
    match Text.hexadecimal? digits with
    | some n => if h : n.isValidChar then .ok (Char.ofNatAux n h) else .error .invalidHexadecimal
    | none => .error .invalidHexadecimal

/-- At most `count` characters, with what may be passed over after each of them. -/
def takeApart (verbose : Bool) : Nat → List Char → List Char × List Char
  | 0, s => ([], s)
  | _, [] => ([], [])
  | n + 1, c :: s =>
    let (taken, rest) := takeApart verbose n (afterNext verbose (c :: s))
    (c :: taken, rest)

/-- Characters up to a closing brace, with what may be passed over after each of them, and the rest
from the brace on. -/
def takeBraced (verbose : Bool) : Nat → List Char → List Char × List Char
  | 0, s => ([], s)
  | _, [] => ([], [])
  | n + 1, c :: s =>
    if c == '}' then ([], c :: s)
    else
      let (taken, rest) := takeBraced verbose n (afterNext verbose (c :: s))
      (c :: taken, rest)

/-- Reads a character's hexadecimal digits after `\x`, `\u` or `\U`: as many as the letter asks
for, or any number between braces. -/
def readHexadecimal (verbose : Bool) (letter : Char) (s : List Char) :
    Reading (Escape × List Char) :=
  match skipBlank verbose s with
  | [] => .error .unexpectedEnd
  | '{' :: rest => do
    let start := skipBlank verbose rest
    match takeBraced verbose start.length start with
    | (_, []) => .error .unexpectedEnd
    | (digits, last) => do
      let c ← hexadecimalCharacter digits
      pure (.literal c, afterNext verbose last)
  | start => do
    let count := if letter == 'x' then 2 else if letter == 'u' then 4 else 8
    let (digits, rest) := takeApart verbose count start
    if digits.length < count then .error .unexpectedEnd
    else do
      let c ← hexadecimalCharacter digits
      pure (if letter == 'x' then .byte c else .literal c, rest)

def splitAt? (separator : List Char) : List Char → Option (List Char × List Char)
  | [] => none
  | c :: s =>
    if separator.isPrefixOf (c :: s) then some ([], (c :: s).drop separator.length)
    else (splitAt? separator s).map fun (before, after) => (c :: before, after)

/-- The set that the text between the braces of `\p` names. The sign between a property and its
value does not matter. -/
def propertyOfText (text : List Char) : Option Text.CodePoints :=
  match splitAt? ['!', '='] text <|> splitAt? [':'] text <|> splitAt? ['='] text with
  | some (name, value) => propertyValue? (String.ofList name) (String.ofList value)
  | none => property? (String.ofList text)

def readProperty (verbose negated : Bool) (s : List Char) : Reading (Escape × List Char) :=
  match skipBlank verbose s with
  | [] => .error .unexpectedEnd
  | '{' :: rest =>
    let start := skipBlank verbose rest
    match takeBraced verbose start.length start with
    | (_, []) => .error .unexpectedEnd
    | (name, last) => .ok (.property negated (propertyOfText name), last.tail)
  | '\\' :: _ => .error .unknownProperty
  | c :: rest =>
    .ok (.property negated (property? (String.ofList [c])), skipBlank verbose rest)

/-- Reads the name in `\b{…}`, if the brace starts one and not a count. -/
def readWordBoundary (verbose : Bool) (s : List Char) : Reading (Escape × List Char) :=
  let isNamePart (c : Char) : Bool := c.isAlpha || c == '-'
  match s with
  | '{' :: rest =>
    match skipBlank verbose rest with
    | [] => .error .unexpectedEnd
    | c :: start =>
      if !isNamePart c then .ok (.boundary, s)
      else
        match takeBraced verbose (start.length + 1) (c :: start) with
        | (_, []) => .error .unexpectedEnd
        | (name, last) =>
          match String.ofList name with
          | "start" => .ok (.wordStart, last.tail)
          | "end" => .ok (.wordFinish, last.tail)
          | "start-half" => .ok (.wordStartHalf, last.tail)
          | "end-half" => .ok (.wordFinishHalf, last.tail)
          | _ => .error .unknownWordBoundary
  | _ => .ok (.boundary, s)

def readEscape (verbose : Bool) : List Char → Reading (Escape × List Char)
  | [] => .error .unexpectedEnd
  | c :: s =>
    if c.isDigit then .error .backreference
    else if metaCharacters.contains c || isEscapable c then .ok (.literal c, s)
    else
      match c with
      | 'x' | 'u' | 'U' => readHexadecimal verbose c s
      | 'p' => readProperty verbose false s
      | 'P' => readProperty verbose true s
      | 'd' => .ok (.digits false, s)
      | 'D' => .ok (.digits true, s)
      | 's' => .ok (.blanks false, s)
      | 'S' => .ok (.blanks true, s)
      | 'w' => .ok (.words false, s)
      | 'W' => .ok (.words true, s)
      | 'a' => .ok (.literal '\x07', s)
      | 'f' => .ok (.literal '\x0c', s)
      | 't' => .ok (.literal '\t', s)
      | 'n' => .ok (.literal '\n', s)
      | 'r' => .ok (.literal '\r', s)
      | 'v' => .ok (.literal '\x0b', s)
      | 'A' => .ok (.textStart, s)
      | 'z' => .ok (.textFinish, s)
      | 'b' => readWordBoundary verbose s
      | 'B' => .ok (.notBoundary, s)
      | '<' => .ok (.wordStart, s)
      | '>' => .ok (.wordFinish, s)
      | _ => .error .unknownEscape

def setFlag (flags : Flags) (letter : Char) (value : Bool) : Option Flags :=
  match letter with
  | 'i' => some { flags with caseless := value }
  | 'm' => some { flags with multiLine := value }
  | 's' => some { flags with dotAll := value }
  | 'U' => some { flags with swapGreed := value }
  | 'u' => some { flags with unicode := value }
  | 'R' => some { flags with wideLines := value }
  | 'x' => some { flags with verbose := value }
  | _ => none

/-- Reads flags up to the `:` or `)` after them. Each may be given once, and those after a dash are
cleared. The letters read are told too. -/
def readFlags (flags : Flags) (seen : List Char) : List Char →
    Reading (Flags × List Char × List Char)
  | [] => .error .unexpectedEnd
  | c :: s =>
    if c == ':' || c == ')' then
      if seen.head? == some '-' then .error .danglingNegation else .ok (flags, seen, c :: s)
    else if seen.contains c then .error .repeatedFlag
    else if c == '-' then readFlags flags (c :: seen) s
    else
      match setFlag flags c (!seen.contains '-') with
      | some after => readFlags after (c :: seen) s
      | none => .error .unknownFlag

def isGroupNamePart (first : Bool) (c : Char) : Bool :=
  c == '_' || if first then Text.isAlphabetic c
    else Text.isAlphanumeric c || c == '.' || c == '[' || c == ']'

def readGroupName (s : List Char) : Reading (String × List Char) :=
  let name := s.takeWhile (· != '>')
  let rest := s.dropWhile (· != '>')
  if name.isEmpty then .error (if rest.isEmpty then .unexpectedEnd else .emptyName)
  else if !(isGroupNamePart true (name.headD ' ') && name.tail.all (isGroupNamePart false)) then
    .error .invalidName
  else if rest.isEmpty then .error .unexpectedEnd
  else .ok (String.ofList name, rest.tail)

end RouteTable.Regex
