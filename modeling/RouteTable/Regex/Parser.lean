import RouteTable.Regex.Source

/-!
Reading regular expressions. Classes and groups nest, and flags hold from where they are set to the
end of the group they are set in, over its alternatives. Each step takes a character, so a reader
is given as many steps as there are characters.
-/

namespace RouteTable.Regex

open Text

/-- A set together with the characters that the flags make equal to its own. -/
def Flags.fold (flags : Flags) (chars : CodePoints) : CodePoints :=
  if flags.caseless then (if flags.unicode then chars.caseless else chars.asciiCaseless)
  else chars

/-- A set, unless it is one of bytes that holds one outside ASCII. -/
def Flags.checked (flags : Flags) (chars : CodePoints) : Reading CodePoints :=
  if flags.unicode || isAscii chars then .ok chars else .error .notAscii

/-- The set of digits, blanks or words. -/
def Flags.perl (flags : Flags) (chars : CodePoints) (negated : Bool) : Reading CodePoints :=
  let chars := if flags.unicode then chars else chars.intersection asciiPoints
  flags.checked (negatedIf negated chars)

def Flags.escapeClass? (flags : Flags) : Escape → Option (Reading CodePoints)
  | .digits negated => some (flags.perl ndPoints negated)
  | .blanks negated => some (flags.perl whiteSpacePoints negated)
  | .words negated => some (flags.perl wordPoints negated)
  | .property negated chars =>
    some <|
      if !flags.unicode then .error .notAscii
      else
        match chars with
        | some chars => .ok (negatedIf negated (flags.fold chars))
        | none => .error .unknownProperty
  | _ => none

/-- The character that an escape stands for in a class, if it stands for one. -/
def Flags.classCharacter (flags : Flags) : Escape → Reading Char
  | .literal c | .byte c =>
    if flags.unicode || c.val < 0x80 then .ok c else .error .notAscii
  | _ => .error .invalidRange

inductive ClassOperation where
  | intersection
  | difference
  | symmetricDifference

def ClassOperation.apply (operation : ClassOperation) (a b : CodePoints) : CodePoints :=
  match operation with
  | intersection => a.intersection b
  | difference => a.difference b
  | symmetricDifference => a.symmetricDifference b

/-- A part of an expression, and how deep the parts of it nest. -/
structure Nested (α : Type) where
  value : α
  depth : Nat

/-- The items of a class that were read, in one set: their number and the depth of the deepest. -/
structure ClassUnion where
  chars : CodePoints
  count : Nat
  depth : Nat

namespace ClassUnion

def empty : ClassUnion := ⟨.empty, 0, 0⟩

def add (union : ClassUnion) (item : Nested CodePoints) : ClassUnion :=
  ⟨union.chars.union item.value, union.count + 1, max union.depth item.depth⟩

/-- The set of the items. More than one of them are a level of their own. -/
def set (union : ClassUnion) : Nested CodePoints :=
  ⟨union.chars, if 1 < union.count then union.depth + 1 else union.depth⟩

end ClassUnion

/-- The operations of a class are carried out from left to right. -/
abbrev Pending := Option (Nested CodePoints × ClassOperation)

/-- What is before an operation and the union after it. -/
def Flags.close (flags : Flags) (pending : Pending) (union : ClassUnion) : Nested CodePoints :=
  let right := union.set
  match pending with
  | none => right
  | some (left, operation) =>
    ⟨operation.apply (flags.fold left.value) (flags.fold right.value),
      max left.depth right.depth + 1⟩

/-- Reads a class such as `[:alpha:]` after its bracket. -/
def readAsciiClass (s : List Char) : Option (Bool × CodePoints × List Char) :=
  match s with
  | ':' :: s =>
    let negated := s.head? == some '^'
    let start := if negated then s.tail else s
    let name := start.takeWhile (· != ':')
    let rest := start.dropWhile (· != ':')
    if [':', ']'].isPrefixOf rest then
      (asciiClass? (String.ofList name)).map fun chars => (negated, chars, rest.drop 2)
    else none
  | _ => none

def readClassAtom (verbose : Bool) : List Char → Reading (Escape × List Char)
  | [] => .error .unclosedClass
  | '\\' :: s => readEscape verbose s
  | c :: s => .ok (.literal c, s)

/-- The character that decides whether a dash joins a range, by what comes after the dash: in a
verbose expression, the first that is no white space and not the first number sign, and if there is
none, the first of all. -/
def rangeMark (verbose : Bool) (s : List Char) : Option Char :=
  if verbose then
    match s.dropWhile Text.isBlank with
    | [] => s.head?
    | '#' :: rest => ((rest.dropWhile Text.isBlank).head? <|> s.head?)
    | c :: _ => some c
  else s.head?

/-- Reads a character, a class by escape, or a range. A dash before a dash or the closing bracket
joins no range. -/
def readClassRange (flags : Flags) (s : List Char) : Reading (CodePoints × List Char) := do
  let (low, rest) ← readClassAtom flags.verbose s
  let next := skipBlank flags.verbose rest
  let mark := rangeMark flags.verbose next.tail
  if next.isEmpty then throw .unclosedClass
  if next.head? == some '-' && mark != some ']' && mark != some '-' then
    let after := afterNext flags.verbose next
    if after.isEmpty then throw .unclosedClass
    let (high, last) ← readClassAtom flags.verbose after
    let low ← flags.classCharacter low
    let high ← flags.classCharacter high
    if low ≤ high then pure (.range low.toNat high.toNat, last) else throw .invalidRange
  else
    match flags.escapeClass? low with
    | some chars => pure (← chars, next)
    | none =>
      match low with
      | .literal _ | .byte _ => pure (.single (← flags.classCharacter low).toNat, next)
      | _ => throw .invalidClassItem

def readDashes (verbose : Bool) : Nat → ClassUnion → List Char → ClassUnion × List Char
  | 0, union, s => (union, s)
  | n + 1, union, s =>
    if s.head? == some '-' then
      readDashes verbose n (union.add ⟨.single '-'.toNat, 0⟩) (afterNext verbose s)
    else (union, s)

mutual

/-- Reads a class after its opening bracket, in at most as many steps as are given. -/
def readClass (steps : Nat) (flags : Flags) (s : List Char) :
    Reading (Nested CodePoints × List Char) :=
  match steps with
  | 0 => .error .unclosedClass
  | steps + 1 => do
    let opened := skipBlank flags.verbose s
    let negated := opened.head? == some '^'
    let start := if negated then afterNext flags.verbose opened else opened
    let (dashes, rest) := readDashes flags.verbose start.length .empty start
    let bracketed := dashes.count == 0 && rest.head? == some ']'
    let union := if bracketed then dashes.add ⟨.single ']'.toNat, 0⟩ else dashes
    let items := if bracketed then afterNext flags.verbose rest else rest
    let (chars, last) ← readClassItems steps flags none union items
    let checked ← flags.checked (negatedIf negated (flags.fold chars.value))
    pure (⟨checked, chars.depth + 1⟩, last)

/-- Reads the items of a class up to and over its closing bracket. -/
def readClassItems (steps : Nat) (flags : Flags) (pending : Pending) (union : ClassUnion)
    (s : List Char) : Reading (Nested CodePoints × List Char) :=
  match steps with
  | 0 => .error .unclosedClass
  | steps + 1 =>
    let operate (operation : ClassOperation) (rest : List Char) :=
      readClassItems steps flags (some (flags.close pending union, operation)) .empty rest
    match skipBlank flags.verbose s with
    | [] => .error .unclosedClass
    | ']' :: rest => .ok (flags.close pending union, rest)
    | '&' :: '&' :: rest => operate .intersection rest
    | '-' :: '-' :: rest => operate .difference rest
    | '~' :: '~' :: rest => operate .symmetricDifference rest
    | '[' :: rest =>
      match readAsciiClass rest with
      | some (negated, chars, last) => do
        let chars ← flags.checked (negatedIf negated (flags.fold chars))
        readClassItems steps flags pending (union.add ⟨chars, 0⟩) last
      | none => do
        let (chars, last) ← readClass steps flags rest
        readClassItems steps flags pending (union.add chars) last
    | start => do
      let (chars, last) ← readClassRange flags start
      readClassItems steps flags pending (union.add ⟨chars, 0⟩) last

end

/-- The groups opened so far: their number, and those with a name. -/
structure Groups where
  count : Nat
  names : List (String × Nat)

/-- One character, or one that the flags make equal to it. In an expression of bytes, letters
outside ASCII stand for themselves alone. -/
def Flags.character (flags : Flags) (c : Char) : Expression :=
  .ofSet (flags.fold (.single c.toNat))

def Flags.escapeExpression (flags : Flags) (escape : Escape) : Reading Expression :=
  let word (place : WordPlace) : Reading Expression :=
    .ok (.assertion (.word place flags.unicode))
  match flags.escapeClass? escape with
  | some chars => do pure (.ofSet (← chars))
  | none =>
    match escape with
    | .literal c => .ok (flags.character c)
    | .byte c =>
      if flags.unicode || c.val < 0x80 then .ok (flags.character c) else .error .notAscii
    | .textStart => .ok (.assertion .start)
    | .textFinish => .ok (.assertion .finish)
    | .boundary => word .boundary
    | .notBoundary => word .notBoundary
    | .wordStart => word .start
    | .wordFinish => word .finish
    | .wordStartHalf => word .startHalf
    | .wordFinishHalf => word .finishHalf
    | _ => .error .unknownEscape

/-- The expression of a point: any character, unless it ends a line. -/
def Flags.dot (flags : Flags) : Reading Expression :=
  if !flags.unicode then .error .notAscii
  else if flags.dotAll then .ok (.one .full)
  else if flags.wideLines then
    .ok (.one (CodePoints.ofNumerals [0x00000A_00000A, 0x00000D_00000D]).complement)
  else .ok (.one (CodePoints.single 0x0A).complement)

def Flags.lineStart (flags : Flags) : Assertion :=
  if !flags.multiLine then .start else if flags.wideLines then .wideLineStart else .lineStart

def Flags.lineFinish (flags : Flags) : Assertion :=
  if !flags.multiLine then .finish else if flags.wideLines then .wideLineFinish else .lineFinish

def readAtom (flags : Flags) : List Char → Reading (Expression × List Char)
  | [] => .error .unexpectedEnd
  | '\\' :: s => do
    let (escape, rest) ← readEscape flags.verbose s
    pure (← flags.escapeExpression escape, rest)
  | '.' :: s => do pure (← flags.dot, s)
  | '^' :: s => .ok (.assertion flags.lineStart, s)
  | '$' :: s => .ok (.assertion flags.lineFinish, s)
  | c :: s => .ok (flags.character c, s)

/-- Reads the count of a repetition after its brace, over the closing one. -/
def readCount (verbose : Bool) (s : List Char) : Reading ((Nat × Option Nat) × List Char) := do
  let start := skipBlank verbose s
  if start.isEmpty then throw .unclosedCount
  let (least, rest) ← readDecimal verbose start
  let (most, last) ←
    match rest with
    | ',' :: after =>
      match skipBlank verbose after with
      | '}' :: last => pure (none, '}' :: last)
      | [] => throw .unclosedCount
      | more => do
        let (most, last) ← readDecimal verbose more
        pure (some most, last)
    | _ => pure (some least, rest)
  match last with
  | '}' :: after =>
    if most.all (least ≤ ·) then pure ((least, most), skipBlank verbose after)
    else throw .invalidCount
  | _ => throw .unclosedCount

inductive Opening where
  | capture (name : Option String)
  | plain (flags : Flags)
  /-- Flags alone, for the rest of the group they stand in. -/
  | setFlags (flags : Flags)

/-- Reads what stands between the opening parenthesis of a group and its contents. -/
def readOpening (flags : Flags) (s : List Char) : Reading (Opening × List Char) := do
  let start := skipBlank flags.verbose s
  if [['?', '='], ['?', '!'], ['?', '<', '='], ['?', '<', '!']].any (·.isPrefixOf start) then
    throw .lookAround
  match start with
  | '?' :: 'P' :: '<' :: rest | '?' :: '<' :: rest =>
    let (name, last) ← readGroupName rest
    pure (.capture (some name), last)
  | '?' :: rest =>
    let (inner, seen, last) ← readFlags flags [] rest
    if last.head? == some ')' then
      if seen.isEmpty then throw .missingOperand else pure (.setFlags inner, last.tail)
    else pure (.plain inner, last.tail)
  | _ => pure (.capture none, start)

/-- The items of a sequence that were read, the latest of them first. An item that is none sets
flags. -/
abbrev Items := List (Option (Nested Expression))

/-- The depth of several parts, which are a level of their own if they are more than one. -/
def depthOf (depths : List Nat) : Nat :=
  depths.foldl max 0 + if 1 < depths.length then 1 else 0

def Items.expression (items : Items) : Nested Expression :=
  ⟨.sequence (items.reverse.filterMap (·.map (·.value))),
    depthOf (items.map fun item => (item.map (·.depth)).getD 0)⟩

/-- The alternatives before an expression and the one of its items, the latest of them first. -/
def alternatives (branches : List (Nested Expression)) (items : Items) : Nested Expression :=
  let branches := items.expression :: branches
  ⟨.anyOf (branches.reverse.map (·.value)), depthOf (branches.map (·.depth))⟩

/-- Reads an expression on from a place in it: `branches` and `items` are the alternatives before
and the items of this one, the latest of them first. In a group, the parenthesis that closes it is
passed. -/
def readExpression (steps : Nat) (inGroup : Bool) (flags : Flags) (groups : Groups)
    (branches : List (Nested Expression)) (items : Items) (s : List Char) :
    Reading (Nested Expression × Groups × List Char) :=
  match steps with
  | 0 => .error .unexpectedEnd
  | steps + 1 =>
    let add (groups : Groups) (expression : Nested Expression) (rest : List Char) :=
      readExpression steps inGroup flags groups branches (some expression :: items) rest
    let again (least : Nat) (most : Option Nat) (rest : List Char) :=
      match items with
      | some inner :: others =>
        let lazy := rest.head? == some '?'
        let repeated := Expression.repeated least most (lazy == flags.swapGreed) inner.value
        readExpression steps inGroup flags groups branches
          (some ⟨repeated, inner.depth + 1⟩ :: others) (if lazy then rest.tail else rest)
      | _ => .error .missingOperand
    match skipBlank flags.verbose s with
    | [] => if inGroup then .error .unclosedGroup else .ok (alternatives branches items, groups, [])
    | ')' :: rest =>
      if inGroup then .ok (alternatives branches items, groups, rest) else .error .unopenedGroup
    | '|' :: rest =>
      readExpression steps inGroup flags groups (items.expression :: branches) [] rest
    | '[' :: rest => do
      let (chars, last) ← readClass (2 * rest.length + 2) flags rest
      add groups ⟨.ofSet chars.value, chars.depth⟩ last
    | '?' :: rest => again 0 (some 1) rest
    | '*' :: rest => again 0 none rest
    | '+' :: rest => again 1 none rest
    | '{' :: rest => do
      match items with
      | some _ :: _ =>
        let ((least, most), last) ← readCount flags.verbose rest
        again least most last
      | _ => throw .missingOperand
    | '(' :: rest => do
      let (opening, start) ← readOpening flags rest
      match opening with
      | .setFlags flags =>
        readExpression steps inGroup flags groups branches (none :: items) start
      | .plain inner =>
        let (grouped, after, last) ← readExpression steps true inner groups [] [] start
        add after ⟨grouped.value, grouped.depth + 1⟩ last
      | .capture name =>
        let index := groups.count + 1
        if name.any fun name => groups.names.any (·.1 == name) then throw .repeatedName
        let opened : Groups :=
          ⟨index, groups.names ++ (name.map fun name => (name, index)).toList⟩
        let (grouped, after, last) ← readExpression steps true flags opened [] [] start
        add after ⟨.capture index grouped.value, grouped.depth + 1⟩ last
    | start => do
      let (atom, last) ← readAtom flags start
      add groups ⟨atom, 0⟩ last

def depthLimit : Nat := 250

def parse (source : String) : Reading (Expression × Groups) := do
  let s := source.toList
  let (whole, groups, _) ← readExpression (2 * s.length + 1) false .initial ⟨0, []⟩ [] [] s
  if whole.depth ≤ depthLimit then pure (whole.value, groups) else throw .tooDeep

end RouteTable.Regex
