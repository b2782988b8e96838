import RouteTable.Text.Joining
import RouteTable.Text.NormalForm
import RouteTable.Url.Domain.Fold
import RouteTable.Url.Domain.Punycode

/-!
The labels of domains: what a label stands for, which labels are well formed, and how one is written
in ASCII.
-/

namespace RouteTable.Url.Domain

open Text

/-- A block of characters, and what each of them stands for. -/
structure Fold where
  block : Block
  meaning : Nat → List Nat

def Fold.ofSequence? : List Nat → Option Fold
  | [] => none
  | point :: others => some ⟨⟨point, point⟩, fun _ => others⟩

/-- The fold of a block with a code point, and the meaning that the code point gives. -/
def Fold.ofBlock? (meaning : (first target : Nat) → Nat → Nat) : List Nat → Option Fold
  | [first, last, target] => some ⟨⟨first, last⟩, fun point => [meaning first target point]⟩
  | _ => none

def Fold.ofPairs? : List Nat → Option Fold
  | [first, last] =>
    some ⟨⟨first, last⟩, fun point => [if (point - first) % 2 = 0 then point + 1 else point]⟩
  | _ => none

def folds : List Fold :=
  (longestFold :: (singleFolds ++ severalFolds).map codePointsOf).filterMap Fold.ofSequence? ++
  (blockFolds.map codePointsOf).filterMap (Fold.ofBlock? fun first target point =>
    target + (point - first)) ++
  (sharedFolds.map codePointsOf).filterMap (Fold.ofBlock? fun _ target _ => target) ++
  (pairFolds.map codePointsOf).filterMap Fold.ofPairs?

/-- What a character that is no composite stands for, if a domain can hold it. -/
def meaning? (point : Nat) : Option (List Nat) :=
  if point < 0x80 then some [(Char.ofNat point).toLower.toNat]
  else if !assignedPoints.holds point || refusedPoints.holds point then none
  else if silentPoints.holds point then some []
  else
    match folds.find? (·.block.holds point) with
    | some fold => some (fold.meaning point)
    | none => some [point]

/-- A text with all that is written for something else made plain, in normal form. -/
def plain? (text : List Char) : Option (List Char) := do
  let points := text.flatMap fun c => NormalForm.decomposed c.toNat
  let meanings ← points.mapM meaning?
  pure (normalForm (meanings.flatten.map Char.ofNat))

/-- What labels in ASCII begin with that spell others. -/
def spellingMark : List Char := ['x', 'n', '-', '-']

/-- The label that one stands for. A spelling has to spell a plain label, and one that needs it. -/
def spelled? (label : List Char) : Option (List Char) :=
  if label.take 4 = spellingMark then do
    let spelled ← Punycode.decode? (label.drop 4)
    if spelled.all Punycode.isBasic ∨ spelled.take 4 = spellingMark ∨
        plain? spelled ≠ some spelled then none
    else pure spelled
  else some label

/-- Whether a character of a label is written above, below or around the one before it. -/
def isMark (c : Char) : Bool :=
  (markPoints.union (addedExtendingPoints.union addedSpacingPoints)).holds c.toNat

/-- Whether the nearest letter that can be joined is one of `joining`. -/
def isJoined (joining : CodePoints) : List Char → Bool
  | [] => false
  | c :: rest =>
    if transparentPoints.holds c.toNat then isJoined joining rest else joining.holds c.toNat

/-- The place of the marks that leave a consonant without its vowel. -/
def viramaPlace : Nat := 9

/-- Whether the signs that join letters, or keep them apart, stand where they do so. The characters
`before` are in reverse order. -/
def joinersFit (before : List Char) : List Char → Bool
  | [] => true
  | c :: rest =>
    let afterVirama := before.head?.any fun mark => NormalForm.place mark.toNat = viramaPlace
    let fits :=
      if c = '\u200D' then afterVirama
      else if c = '\u200C' then
        afterVirama ||
          (isJoined (dualJoiningPoints.union leftJoiningPoints) before &&
            isJoined (dualJoiningPoints.union rightJoiningPoints) rest)
      else true
    fits && joinersFit (c :: before) rest

/-- Whether a label is well formed by itself. -/
def isWellFormed (label : List Char) : Bool :=
  !label.head?.any isMark && joinersFit [] label

/-- Whether a label has what goes from right to left. -/
def goesLeft (label : List Char) : Bool :=
  label.any fun c => direction c = .rightToLeft || direction c = .arabicDigit

/-- Whether a label keeps together and apart from its neighbours in a line of both directions. -/
def isOneRun (label : List Char) : Bool :=
  let directions := label.map direction
  let last := (directions.reverse.dropWhile (· = .mark)).head?
  match directions.head? with
  | none => true
  | some .leftToRight =>
    !directions.any (fun d => d = .rightToLeft || d = .arabicDigit) &&
      last.all fun d => d = .leftToRight || d = .europeanDigit
  | some .rightToLeft =>
    !directions.contains .leftToRight &&
      !(directions.contains .europeanDigit && directions.contains .arabicDigit) &&
      last.all fun d => d = .rightToLeft || d = .europeanDigit || d = .arabicDigit
  | some _ => false

def asciiText (label : List Char) : List Char :=
  if label.all Punycode.isBasic then label else spellingMark ++ Punycode.encode label

/-- A domain in ASCII, if it is one: its labels are well formed, and if one of them goes from right
to left, each is one run. -/
def ascii? (text : List Char) : Option (List Char) := do
  let labels := (← plain? text).splitOnP (· == '.')
  let spelled ← labels.mapM spelled?
  let isSafe := spelled.all isOneRun || !spelled.any goesLeft
  if spelled.all isWellFormed && isSafe then
    pure (['.'].intercalate (spelled.map asciiText))
  else none

end RouteTable.Url.Domain
