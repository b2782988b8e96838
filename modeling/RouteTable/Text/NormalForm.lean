import RouteTable.Text.Composite

/-!
The composed normal form of a text. Two texts that are the same but for how letters and marks are
put together have one normal form.
-/

namespace RouteTable.Text.NormalForm

/-- A character that is the same as two in sequence. -/
structure Composite where
  whole : Nat
  first : Nat
  second : Nat

def composites : List Composite :=
  compositeNumerals.filterMap fun numeral =>
    match codePointsOf numeral with
    | [whole, first, second] => some ⟨whole, first, second⟩
    | _ => none

/-- Characters that no normal form has, each with those that it is the same as. -/
def replaced : List (Nat × List Nat) :=
  replacedNumerals.filterMap fun numeral =>
    match codePointsOf numeral with
    | point :: others => some (point, others)
    | [] => none

/-- The ideograph that an ideograph is the same as. -/
def repeated? (point : Nat) : Option Nat :=
  repeatedIdeographs.findSome? fun (first, ideographs) =>
    if first ≤ point then ideographs[point - first]? else none

/-- Blocks of marks that have the same place after a letter. -/
def places : List (Nat × Block) :=
  placeNumerals.filterMap fun numeral =>
    match codePointsOf numeral with
    | [place, first, last] => some (place, ⟨first, last⟩)
    | _ => none

/-- The place of a mark among the marks after a letter, from 1 up. What is no such mark has the
place 0. -/
def place (point : Nat) : Nat :=
  (places.findSome? fun (place, block) => if block.holds point then some place else none).getD 0

/-- The first syllable of Hangul. The syllables are in the order of their consonants and vowels. -/
def firstSyllable : Nat := 0xAC00

/-- The number of syllables: 19 first consonants, 21 vowels, and 27 last consonants or none. -/
def syllableCount : Nat := 19 * 21 * 28

def isSyllable (point : Nat) : Bool :=
  firstSyllable ≤ point && point < firstSyllable + syllableCount

/-- The consonant and the vowel of a syllable, and its last consonant if there is one. -/
def syllableParts (point : Nat) : List Nat :=
  let index := point - firstSyllable
  let front := [0x1100 + index / (21 * 28), 0x1161 + index / 28 % 21]
  if index % 28 = 0 then front else front ++ [0x11A7 + index % 28]

/-- What a character is the same as, after one step. -/
def parts (point : Nat) : List Nat :=
  if point < 0xC0 then [point]
  else if isSyllable point then syllableParts point
  else
    match composites.find? (·.whole = point) with
    | some composite => [composite.first, composite.second]
    | none =>
      match replaced.find? (·.1 = point), repeated? point with
      | some (_, others), _ => others
      | none, some ideograph => [ideograph]
      | none, none => [point]

/-- A character without composites. No composite has more than three marks. -/
def decomposed (point : Nat) : List Nat :=
  ((parts point).flatMap parts).flatMap parts

/-- Puts a mark in front of others, behind those whose places are before its own. -/
def insertMark (point : Nat) : List Nat → List Nat
  | [] => [point]
  | mark :: rest =>
    if 0 < place mark ∧ place mark < place point then mark :: insertMark point rest
    else point :: mark :: rest

/-- The same characters with the marks after each letter in the order of their places. -/
def ordered : List Nat → List Nat
  | [] => []
  | point :: rest => insertMark point (ordered rest)

/-- The character that two in sequence are the same as. -/
def whole? (first second : Nat) : Option Nat :=
  if 0x1100 ≤ first ∧ first < 0x1113 ∧ 0x1161 ≤ second ∧ second < 0x1176 then
    some (firstSyllable + ((first - 0x1100) * 21 + (second - 0x1161)) * 28)
  else if isSyllable first ∧ (first - firstSyllable) % 28 = 0 ∧ 0x11A7 < second ∧
      second < 0x11C3 then
    some (first + (second - 0x11A7))
  else
    (composites.find? fun composite => composite.first = first ∧ composite.second = second).map
      (·.whole)

/-- The normal form of a letter and what follows it. The marks that stand between them and have
found no letter are in reverse order; a mark behind one of its own place finds none either. -/
def composedFrom (letter : Nat) (marks : List Nat) : List Nat → List Nat
  | [] => letter :: marks.reverse
  | point :: rest =>
    let isNear := marks.head?.all fun mark => place mark < place point
    match if isNear then whole? letter point else none with
    | some whole => composedFrom whole marks rest
    | none =>
      if place point = 0 then letter :: marks.reverse ++ composedFrom point [] rest
      else composedFrom letter (point :: marks) rest

/-- The normal form of characters that have been decomposed and ordered. -/
def composed : List Nat → List Nat
  | [] => []
  | point :: rest =>
    if place point = 0 then composedFrom point [] rest else point :: composed rest

end RouteTable.Text.NormalForm

namespace RouteTable.Text

def normalForm (text : List Char) : List Char :=
  let points := text.flatMap fun c => NormalForm.decomposed c.toNat
  (NormalForm.composed (NormalForm.ordered points)).map Char.ofNat

end RouteTable.Text
