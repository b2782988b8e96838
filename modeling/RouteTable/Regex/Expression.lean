import RouteTable.Regex.Class

/-!
Regular expressions with captures, as trees. Alternatives are tried in order, and repetitions try
to go on first if they are greedy and to stop first if they are not.

Expressions are built by functions that simplify them: sequences and alternatives are flat, texts
in a row are one text, alternatives of one character each are a set, and what all alternatives
start with stands before them.
-/

namespace RouteTable.Regex

open Text

/-- A condition on a place that asks for the characters of words next to it. -/
inductive WordPlace where
  | boundary
  | notBoundary
  | start
  | finish
  /-- No word character before the place. -/
  | startHalf
  /-- No word character after the place. -/
  | finishHalf
deriving DecidableEq

def WordPlace.holds (before after : Bool) : WordPlace → Bool
  | boundary => before != after
  | notBoundary => before == after
  | start => !before && after
  | finish => before && !after
  | startHalf => !before
  | finishHalf => !after

inductive Assertion where
  | start
  | finish
  | lineStart
  | lineFinish
  /-- The start or end of a line that may end in a carriage return and a line feed. -/
  | wideLineStart
  | wideLineFinish
  | word (place : WordPlace) (unicode : Bool)
deriving DecidableEq

def Assertion.holds (before after : Option Char) : Assertion → Bool
  | start => before.isNone
  | finish => after.isNone
  | lineStart => before.all (· == '\n')
  | lineFinish => after.all (· == '\n')
  | wideLineStart =>
      match before with
      | none => true
      | some c => c == '\n' || c == '\r' && after != some '\n'
  | wideLineFinish =>
      match after with
      | none => true
      | some c => c == '\r' || c == '\n' && before != some '\r'
  | word place unicode => place.holds (before.any (isWord unicode)) (after.any (isWord unicode))

inductive Expression where
  | empty
  /-- One character after another. -/
  | literal (text : List Char)
  | one (chars : CodePoints)
  | assertion (condition : Assertion)
  | seq (first second : Expression)
  | alt (first second : Expression)
  /-- From `least` texts of the inner expression to `most`, if there is a most. -/
  | repetition (least : Nat) (most : Option Nat) (greedy : Bool) (inner : Expression)
  | capture (group : Nat) (inner : Expression)
deriving DecidableEq

namespace Expression

def items : Expression → List Expression
  | seq a b => a :: b.items
  | a => [a]

def branches : Expression → List Expression
  | alt a b => a :: b.branches
  | a => [a]

/-- A sequence of expressions, none of them a sequence. -/
def ofItems : List Expression → Expression
  | [] => empty
  | [a] => a
  | a :: rest => seq a (ofItems rest)

/-- Alternatives, none of them alternatives again. -/
def ofBranches : List Expression → Expression
  | [] => one .empty
  | [a] => a
  | a :: rest => alt a (ofBranches rest)

/-- The texts in a row made one, and what is empty left out. -/
def joined : List Expression → List Expression
  | [] => []
  | a :: rest =>
    match a, joined rest with
    | empty, others => others
    | literal text, literal more :: others => literal (text ++ more) :: others
    | a, others => a :: others

def sequence (parts : List Expression) : Expression :=
  ofItems (joined (parts.flatMap items))

def ofSet (set : CodePoints) : Expression :=
  match set.blocks with
  | [block] => if block.first = block.last then literal [Char.ofNat block.first] else one set
  | _ => one set

def single? : Expression → Option CodePoints
  | literal [c] => some (.single c.toNat)
  | _ => none

def set? : Expression → Option CodePoints
  | one set => some set
  | _ => none

def commonStart : List Expression → List Expression → List Expression
  | a :: as, b :: bs => if a = b then a :: commonStart as bs else []
  | _, _ => []

def isSequence : Expression → Bool
  | seq _ _ => true
  | _ => false

/-- What all of some alternatives start with, if they are sequences. -/
def lifted : List Expression → List Expression
  | [] => []
  | a :: rest =>
    if (a :: rest).all isSequence then rest.foldl (fun start b => commonStart start b.items) a.items
    else []

def size : Expression → Nat
  | seq a b | alt a b => a.size + b.size + 1
  | repetition _ _ _ a | capture _ a => a.size + 1
  | _ => 1

/-- Any of several alternatives, lifting what they start with for as many times as are given. -/
def anyWithin (times : Nat) (parts : List Expression) : Expression :=
  match parts.flatMap branches with
  | [a] => a
  | alternatives =>
    match alternatives.mapM single? <|> alternatives.mapM set? with
    | some sets => ofSet (.unions sets)
    | none =>
      match times, lifted alternatives with
      | times + 1, a :: rest =>
        let others := alternatives.map fun b => sequence (b.items.drop (rest.length + 1))
        sequence (a :: rest ++ [anyWithin times others])
      | _, _ => ofBranches alternatives

def anyOf (parts : List Expression) : Expression :=
  anyWithin (parts.foldl (fun total part => total + part.size) 0) parts

def mayBeEmpty : Expression → Bool
  | empty | assertion _ => true
  | literal text => text.isEmpty
  | one _ => false
  | seq a b => a.mayBeEmpty && b.mayBeEmpty
  | alt a b => a.mayBeEmpty || b.mayBeEmpty
  | repetition least _ _ inner => least == 0 || inner.mayBeEmpty
  | capture _ inner => inner.mayBeEmpty

def isEmptyOnly : Expression → Bool
  | empty | assertion _ => true
  | literal text => text.isEmpty
  | one _ => false
  | seq a b | alt a b => a.isEmptyOnly && b.isEmptyOnly
  | repetition _ most _ inner => most == some 0 || inner.isEmptyOnly
  | capture _ inner => inner.isEmptyOnly

/-- The repetition of an expression. One that matches the empty text alone is repeated once at
most. -/
def repeated (least : Nat) (most : Option Nat) (greedy : Bool) (inner : Expression) : Expression :=
  let (least, most) :=
    if inner.isEmptyOnly then (min least 1, some (min (most.getD 1) 1)) else (least, most)
  if least == 0 && most == some 0 then empty
  else if least == 1 && most == some 1 then inner
  else repetition least most greedy inner

end Expression

end RouteTable.Regex
