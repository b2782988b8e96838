/-!
Texts of any letters as texts of ASCII. The letters of ASCII come first; the others follow as
numbers that tell, in the order of their code points, how far each is from the one before, counted
in places where a letter could stand.
-/

namespace RouteTable.Url.Domain.Punycode

/-- The digit of a value below 36: the letters first. -/
def digit (value : Nat) : Char :=
  Char.ofNat (if value < 26 then 'a'.toNat + value else '0'.toNat + value - 26)

def digitValue? (c : Char) : Option Nat :=
  if 'a' ≤ c ∧ c ≤ 'z' then some (c.toNat - 'a'.toNat)
  else if 'A' ≤ c ∧ c ≤ 'Z' then some (c.toNat - 'A'.toNat)
  else if c.isDigit then some (c.toNat - '0'.toNat + 26)
  else none

/-- The value below which a digit ends its number. The digits of a number are counted in steps of
36 from `step` on. -/
def threshold (bias step : Nat) : Nat :=
  min 26 (max 1 (step - bias))

theorem threshold_pos (bias step : Nat) : 0 < threshold bias step := by
  unfold threshold
  omega

/-- Divides a number by 35 until it is small, and counts the steps in units of 36. -/
def scaled (number : Nat) : Nat × Nat :=
  if 455 < number then
    let (small, steps) := scaled (number / 35)
    (small, steps + 36)
  else (number, 0)
termination_by number
decreasing_by omega

/-- The bias of the next number: the larger this one, and the fewer the letters so far, the larger.
The first number of a text says little about the others. -/
def nextBias (number count : Nat) (isFirst : Bool) : Nat :=
  let damped := if isFirst then number / 700 else number / 2
  let (small, steps) := scaled (damped + damped / count)
  steps + 36 * small / (small + 38)

/-- The digits of a number, the lowest first. -/
def digits (bias step number : Nat) : List Char :=
  let least := threshold bias step
  if number < least then [digit number]
  else
    digit (least + (number - least) % (36 - least)) ::
      digits bias (step + 36) ((number - least) / (36 - least))
termination_by number
decreasing_by
  have positive := threshold_pos bias step
  have smaller := Nat.div_le_self (number - threshold bias step) (36 - threshold bias step)
  omega

/-- What has been written, and what the next number depends on. -/
structure Progress where
  /-- The digits so far, the last first. -/
  written : List Char
  /-- The places that have been passed since the last letter. -/
  passed : Nat
  bias : Nat
  /-- The letters that stand in the text so far. -/
  count : Nat

/-- Goes past a letter of the text, where those with the code point `point` are being written. -/
def Progress.meet (basicCount point : Nat) (progress : Progress) (c : Char) : Progress :=
  if c.toNat < point then { progress with passed := progress.passed + 1 }
  else if c.toNat = point then
    { written := (digits progress.bias 36 progress.passed).reverse ++ progress.written
      passed := 0
      bias := nextBias progress.passed (progress.count + 1) (progress.count = basicCount)
      count := progress.count + 1 }
  else progress

/-- Writes all letters that have one of the code points, which are in order. Those below `next` have
been written. -/
def Progress.meetAll (basicCount : Nat) (text : List Char) (next : Nat) (progress : Progress) :
    List Nat → Progress
  | [] => progress
  | point :: rest =>
    let start := { progress with
      passed := progress.passed + (point - next) * (progress.count + 1) }
    let reached := text.foldl (meet basicCount point) start
    meetAll basicCount text (point + 1) { reached with passed := reached.passed + 1 } rest

def isBasic (c : Char) : Bool :=
  c.toNat < 0x80

/-- A text in ASCII. A dash ends the letters that stand for themselves. -/
def encode (text : List Char) : List Char :=
  let basic := text.filter isBasic
  let points := ((text.filter (!isBasic ·)).map Char.toNat).mergeSort.eraseReps
  let start : Progress := ⟨[], 0, 72, basic.length⟩
  let written := (start.meetAll basic.length text 0x80 points).written.reverse
  if basic.isEmpty then written else basic ++ '-' :: written

/-- The number that digits begin with, added to `number`, and the digits after it. -/
def number? (bias step weight number : Nat) : List Char → Option (Nat × List Char)
  | [] => none
  | c :: rest => do
    let value ← digitValue? c
    let least := threshold bias step
    if value < least then pure (number + value * weight, rest)
    else number? bias (step + 36) (weight * (36 - least)) (number + value * weight) rest

theorem length_lt_of_number? {bias step weight number : Nat} {text rest : List Char} {result : Nat}
    (h : number? bias step weight number text = some (result, rest)) :
    rest.length < text.length := by
  induction text generalizing step weight number with
  | nil => simp [number?] at h
  | cons c tail ih =>
    simp only [number?] at h
    cases hv : digitValue? c with
    | none => simp [hv] at h
    | some value =>
      simp only [hv, Option.bind_eq_bind, Option.bind_some] at h
      split at h
      · simp only [Option.pure_def, Option.some.injEq, Prod.mk.injEq] at h
        simp [h.2]
      · have := ih h
        simp only [List.length_cons]
        omega

/-- Puts the letters that digits spell among the others. The last of them had the code point `point`
and stood before `place`. -/
def insertAll? (bias point place : Nat) (text : List Char) (spelled : List Char) :
    Option (List Char) :=
  match spelled with
  | [] => some text
  | c :: rest =>
    match _reached : number? bias 36 1 place (c :: rest) with
    | none => none
    | some (reached, after) =>
      let count := text.length + 1
      let point' := point + reached / count
      if point'.isValidChar then
        insertAll? (nextBias (reached - place) count (text.all isBasic)) point'
          (reached % count + 1) (text.insertIdx (reached % count) (Char.ofNat point')) after
      else none
termination_by spelled.length
decreasing_by exact length_lt_of_number? _reached

def decode? (spelling : List Char) : Option (List Char) :=
  let spelled := (spelling.reverse.takeWhile (· != '-')).reverse
  let basic := (spelling.take (spelling.length - spelled.length)).dropLast
  if spelling.head? = some '-' ∧ basic.isEmpty then none
  else if basic.all isBasic then insertAll? 72 0x80 0 basic spelled
  else none

end RouteTable.Url.Domain.Punycode
