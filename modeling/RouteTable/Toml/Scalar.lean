import RouteTable.Text.Hexadecimal
import RouteTable.Toml.Value

/-!
Numbers, truth values, dates and times of TOML.
-/

namespace RouteTable.Toml

open Text

/-- The digits of a numeral whose underscores stand between digits. -/
def ungrouped? (isDigit : Char → Bool) (text : List Char) : Option (List Char) :=
  let groups := text.splitOnP (· == '_')
  if groups.all (fun group => !group.isEmpty && group.all isDigit) then some groups.flatten
  else none

def valueOf (base : Nat) (digits : List Char) : Nat :=
  digits.foldl (fun n c => base * n + (hexadecimalDigit? c).getD 0) 0

/-- A decimal numeral without a sign. It starts with a zero only if it is one. -/
def decimal? (text : List Char) : Option (List Char) := do
  let digits ← ungrouped? Char.isDigit text
  if 1 < digits.length && digits.head? == some '0' then none else some digits

/-- A text without its sign, and whether that is a minus sign. -/
def unsigned (text : List Char) : Bool × List Char :=
  match text with
  | '-' :: rest => (true, rest)
  | '+' :: rest => (false, rest)
  | _ => (false, text)

def isBinaryDigit (c : Char) : Bool := c == '0' || c == '1'

def isOctalDigit (c : Char) : Bool := '0' ≤ c && c ≤ '7'

def isHexadecimalDigit (c : Char) : Bool := (hexadecimalDigit? c).isSome

/-- An integer: decimal with or without a sign, or in another base without one. -/
def integer? (text : List Char) : Option Int :=
  match text with
  | '0' :: 'x' :: digits => (ungrouped? isHexadecimalDigit digits).map (valueOf 16 · : _ → Int)
  | '0' :: 'o' :: digits => (ungrouped? isOctalDigit digits).map (valueOf 8 · : _ → Int)
  | '0' :: 'b' :: digits => (ungrouped? isBinaryDigit digits).map (valueOf 2 · : _ → Int)
  | _ =>
    let (negative, digits) := unsigned text
    (decimal? digits).map fun digits =>
      let n : Int := valueOf 10 digits
      if negative then -n else n

/-- The exponent of a numeral: a letter, a sign or none, and digits. -/
def exponent? : List Char → Option Int
  | [] => some 0
  | c :: rest =>
    if c == 'e' || c == 'E' then do
      let (negative, digits) := unsigned rest
      let digits ← ungrouped? Char.isDigit digits
      let n : Int := valueOf 10 digits
      pure (if negative then -n else n)
    else none

/-- The number nearest to `digits * 10 ^ power`, unless it is too large. -/
def nearest? (digits : Nat) (power : Int) : Option Float :=
  let size := power + (toString digits).length
  if digits = 0 ∨ size < -400 then some 0
  else if 400 < size then none
  else
    let x := Float.ofScientific digits (power < 0) power.natAbs
    if x.isInf then none else some x

def negated (negative : Bool) (x : Float) : Float :=
  if negative then -x else x

/-- A number with a fraction or an exponent, or a word for a value that is no number. -/
def real? (text : List Char) : Option Float := do
  let (negative, body) := unsigned text
  if body = ['i', 'n', 'f'] then pure (negated negative (1 / 0))
  else if body = ['n', 'a', 'n'] then pure (0 / 0)
  else
    let isPlain (c : Char) := c.isDigit || c == '_'
    let whole ← decimal? (body.takeWhile isPlain)
    match body.dropWhile isPlain with
    | '.' :: rest => do
      let fraction ← ungrouped? Char.isDigit (rest.takeWhile isPlain)
      let exponent ← exponent? (rest.dropWhile isPlain)
      let x ← nearest? (valueOf 10 (whole ++ fraction)) (exponent - fraction.length)
      pure (negated negative x)
    | c :: rest => do
      let exponent ← exponent? (c :: rest)
      let x ← nearest? (valueOf 10 whole) exponent
      pure (negated negative x)
    | [] => none

def twoDigits? (most : Nat) : List Char → Option (Nat × List Char)
  | a :: b :: rest =>
    let n := valueOf 10 [a, b]
    if a.isDigit && b.isDigit && n ≤ most then some (n, rest) else none
  | _ => none

def isLeapYear (year : Nat) : Bool :=
  year % 4 = 0 && (year % 100 != 0 || year % 400 = 0)

def daysOfMonth (year month : Nat) : Nat :=
  if month = 2 then if isLeapYear year then 29 else 28
  else if month = 4 ∨ month = 6 ∨ month = 9 ∨ month = 11 then 30
  else 31

def afterDate? (text : List Char) : Option (List Char) := do
  let year := text.take 4
  if year.length < 4 || !year.all Char.isDigit then none
  let '-' :: rest := text.drop 4 | none
  let (month, rest) ← twoDigits? 12 rest
  let '-' :: rest := rest | none
  let (day, rest) ← twoDigits? (daysOfMonth (valueOf 10 year) month) rest
  if month = 0 || day = 0 then none else some rest

/-- The text after the seconds of a time, which may be missing. -/
def afterSeconds? : List Char → Option (List Char)
  | ':' :: rest => do
    let (_, rest) ← twoDigits? 60 rest
    match rest with
    | '.' :: rest =>
      if (rest.takeWhile Char.isDigit).isEmpty then none else some (rest.dropWhile Char.isDigit)
    | _ => some rest
  | rest => some rest

def afterTime? (text : List Char) : Option (List Char) := do
  let (_, rest) ← twoDigits? 23 text
  let ':' :: rest := rest | none
  let (_, rest) ← twoDigits? 59 rest
  afterSeconds? rest

/-- Whether a text is the offset of a time zone, or nothing. -/
def isOffset : List Char → Bool
  | [] => true
  | ['Z'] => true
  | ['z'] => true
  | sign :: rest =>
    (sign == '+' || sign == '-') &&
      match twoDigits? 23 rest with
      | some (_, ':' :: rest) => (twoDigits? 59 rest).any (·.2.isEmpty)
      | _ => false

/-- Whether a text is a date, a time, or a date with a time. -/
def isMoment (text : List Char) : Bool :=
  match afterDate? text with
  | some [] => true
  | some (c :: rest) => (c == 'T' || c == 't' || c == ' ') && (afterTime? rest).any isOffset
  | none => (afterTime? text).any List.isEmpty

def scalar? (word : List Char) : Option Value :=
  if word = "true".toList then some (.boolean true)
  else if word = "false".toList then some (.boolean false)
  else
    match integer? word with
    | some n => some (.integer n)
    | none =>
      match real? word with
      | some x => some (.real x)
      | none => if isMoment word then some .moment else none

def isWordChar (c : Char) : Bool :=
  c.isAlphanum || c == '_' || c == '+' || c == '-' || c == '.' || c == ':'

/-- Reads a word. A space may stand between a date and a time. -/
def readWord (text : List Char) : List Char × List Char :=
  let word := text.takeWhile isWordChar
  let rest := text.dropWhile isWordChar
  match afterDate? word, rest with
  | some [], ' ' :: c :: after =>
    if c.isDigit then
      (word ++ ' ' :: (c :: after).takeWhile isWordChar, (c :: after).dropWhile isWordChar)
    else (word, rest)
  | _, _ => (word, rest)

end RouteTable.Toml
