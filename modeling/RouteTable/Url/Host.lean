import RouteTable.Text.Percent
import RouteTable.Url.Domain.Label

/-!
Hosts of URLs: domains, addresses of four numbers, and bracketed addresses of eight.
-/

namespace RouteTable.Url.Host

open Text

def split (separator : Char) (text : List Char) : List (List Char) :=
  text.splitOnP (· == separator)

def digits? (base : Nat) (text : List Char) : Option Nat :=
  text.foldlM (fun value c => do
    let digit ← hexadecimalDigit? c
    if digit < base then pure (base * value + digit) else none) 0

/-- A number as a part of an address: hexadecimal after `0x`, octal after `0`, else decimal. -/
def addressPart? : List Char → Option Nat
  | [] => none
  | '0' :: 'x' :: digits => digits? 16 digits
  | '0' :: 'X' :: digits => digits? 16 digits
  | '0' :: digits => digits? 8 digits
  | digits => digits? 10 digits

/-- The parts of a domain. One point at the end counts for nothing. -/
def labels (domain : List Char) : List (List Char) :=
  let parts := split '.' domain
  if 1 < parts.length ∧ parts.getLast? = some [] then parts.dropLast else parts

/-- Whether a domain has to be an address, by its last part. -/
def endsInNumber (domain : List Char) : Bool :=
  match (labels domain).getLast? with
  | some label =>
    (!label.isEmpty && label.all Char.isDigit) || (addressPart? label).isSome
  | none => false

/-- The value of an address of at most four numbers. The last fills what the others leave. -/
def addressOfParts? : List Nat → Option Nat
  | [] => none
  | parts =>
    let front := parts.dropLast
    let last := parts.getLastD 0
    let room := Nat.pow 256 (4 - front.length)
    if parts.length ≤ 4 ∧ front.all (· < 256) ∧ last < room then
      some (front.foldl (fun value part => 256 * value + part) 0 * room + last)
    else none

/-- Four decimal numbers with points between them. -/
def addressText (address : Nat) : List Char :=
  let part (weight : Nat) := (toString (address / weight % 256)).toList
  part 0x1000000 ++ '.' :: part 0x10000 ++ '.' :: part 256 ++ '.' :: part 1

/-- One to four hexadecimal digits. -/
def group? (text : List Char) : Option Nat :=
  if text.isEmpty || 4 < text.length then none else digits? 16 text

/-- Four decimal numbers below 256, as two groups. -/
def dottedGroups? (text : List Char) : Option (List Nat) :=
  match (split '.' text).mapM fun part =>
      if part.isEmpty || (1 < part.length && part.head? == some '0') then none
      else (digits? 10 part).filter (· < 256) with
  | some [a, b, c, d] => some [256 * a + b, 256 * c + d]
  | _ => none

/-- The groups of a part of a bracketed address. Only the last may be dotted, at the address's
end. -/
def groups? (atEnd : Bool) (text : List Char) : Option (List Nat) :=
  if text.isEmpty then some []
  else
    let parts := split ':' text
    let last := parts.getLastD []
    if atEnd && last.contains '.' then do
      let front ← parts.dropLast.mapM group?
      let dotted ← dottedGroups? last
      pure (front ++ dotted)
    else parts.mapM group?

/-- The text before the first pair of colons, and the text after it. -/
def splitPair : List Char → Option (List Char × List Char)
  | [] => none
  | ':' :: ':' :: rest => some ([], rest)
  | c :: rest => (splitPair rest).map fun (before, after) => (c :: before, after)

/-- The eight groups of a bracketed address. A pair of colons stands for one zero or more. -/
def eightGroups? (text : List Char) : Option (List Nat) :=
  match splitPair text with
  | none => (groups? true text).filter (·.length == 8)
  | some (before, after) => do
    let front ← groups? false before
    let back ← groups? true after
    if front.length + back.length ≤ 7 then
      pure (front ++ List.replicate (8 - front.length - back.length) 0 ++ back)
    else none

/-- The digits of a group, in lower case and without zeros in front. -/
def groupText (group : Nat) : List Char :=
  Nat.toDigits 16 group

def longestZeros : List Nat → Nat
  | [] => 0
  | group :: rest => max ((group :: rest).takeWhile (· == 0)).length (longestZeros rest)

/-- The groups with colons between them, and a pair of colons for the first run of `count` zeros. -/
def groupsText (count : Nat) (first : Bool) : List Nat → List Char
  | [] => []
  | group :: rest =>
    if 2 ≤ count ∧ ((group :: rest).takeWhile (· == 0)).length = count then
      let after := rest.drop (count - 1)
      ':' :: ':' :: [':'].intercalate (after.map groupText)
    else (if first then [] else [':']) ++ groupText group ++ groupsText count false rest

def bracketedText (groups : List Nat) : List Char :=
  '[' :: groupsText (longestZeros groups) true groups ++ [']']

/-- A bracketed address, without the opening bracket. -/
def bracketed? (text : List Char) : Option (List Char) :=
  if text.getLast? = some ']' then (eightGroups? text.dropLast).map bracketedText else none

def forbidden : List Char :=
  ['\x00', '\t', '\n', '\r', ' ', '#', '/', ':', '<', '>', '?', '@', '[', '\\', ']', '^', '|']

def isDomainChar (c : Char) : Bool :=
  !forbidden.contains c && c != '%' && 0x20 < c.toNat && c.toNat < 0x7F

/-- A host of a scheme that knows domains and addresses. -/
def special? : List Char → Option (List Char)
  | '[' :: text => bracketed? text
  | text => do
    let domain ← Domain.ascii? (Utf8.decodeLossy (Percent.decode text))
    if domain.isEmpty || !domain.all isDomainChar then none
    else if endsInNumber domain then
      (((labels domain).mapM addressPart?).bind addressOfParts?).map addressText
    else some domain

/-- A host of any other scheme. -/
def other? : List Char → Option (List Char)
  | '[' :: text => bracketed? text
  | text => if text.any forbidden.contains then none else some (Percent.encodeText [] text)

end RouteTable.Url.Host
