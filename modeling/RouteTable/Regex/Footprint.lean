import RouteTable.Regex.Expression
import RouteTable.Regex.ByteRange
import RouteTable.Text.Utf8

/-!
How much memory the automata of an expression take: one that reads the bytes of a text forwards, and
one that reads them backwards. An expression that takes too much of it is refused.

A state takes 32 bytes, each of the arrows of a state that has several for ranges of bytes 8 more,
and each of the branches of a choice 4 more. An automaton is not built here; what counts is how many
states there are. Their numbers count as well: states that lead to the same ones by the same bytes
are shared, as far as tables of a fixed size can tell.
-/

namespace RouteTable.Regex

open Text

/-- How large an automaton is so far: the number of its states, and the bytes of their arrows and
branches. -/
structure Extent where
  states : Nat
  held : Nat

def Extent.memory (extent : Extent) : Nat :=
  32 * extent.states + extent.held

def memoryLimit : Nat := 10485760

abbrev Build := StateM Extent

/-- Adds a state whose arrows or branches take some bytes, and gives its number. -/
def addState (held : Nat) : Build Nat :=
  modifyGet fun extent => (extent.states, ⟨extent.states + 1, extent.held + held⟩)

def addBranch : Build Unit :=
  modify fun extent => ⟨extent.states, extent.held + 4⟩

/-- A part of an automaton: its first state and its last, which may be a choice. -/
structure Fragment where
  first : Nat
  last : Nat
  choosing : Bool

def Fragment.leadOn (part : Fragment) : Build Unit :=
  if part.choosing then addBranch else pure ()

def lone : Build Fragment := do
  let state ← addState 0
  pure ⟨state, state, false⟩

/-- Adds the same part `n` times after others, and stops where there is too much of it. -/
def follow (part : Build Fragment) : (n : Nat) → Fragment → Build Fragment
  | 0, before => pure before
  | n + 1, before => do
    if memoryLimit < (← get).memory then pure before
    else
      let next ← part
      before.leadOn
      follow part n ⟨before.first, next.last, next.choosing⟩

def exactly (part : Build Fragment) : (n : Nat) → Build Fragment
  | 0 => lone
  | n + 1 => do
    let first ← part
    follow part n first

/-- Adds the same part `n` times after others, with the choice to leave before each of them. -/
def followOptional (part : Build Fragment) : (n : Nat) → Fragment → Build Fragment
  | 0, before => pure before
  | n + 1, before => do
    if memoryLimit < (← get).memory then pure before
    else
      let _ ← addState 0
      let next ← part
      before.leadOn
      addBranch
      addBranch
      followOptional part n next

def between (part : Build Fragment) (least most : Nat) : Build Fragment := do
  let required ← exactly part least
  let leave ← addState 0
  let last ← followOptional part (most - least) required
  last.leadOn
  pure ⟨required.first, leave, false⟩

def optionally (part : Build Fragment) : Build Fragment := do
  let choice ← addState 0
  let inner ← part
  let leave ← addState 0
  addBranch
  addBranch
  inner.leadOn
  pure ⟨choice, leave, false⟩

/-- A part any number of times. One that may match the empty text is entered apart from being
repeated. -/
def anyTimes (part : Build Fragment) (mayBeEmpty : Bool) : Build Fragment :=
  if mayBeEmpty then do
    let inner ← part
    let _ ← addState 0
    inner.leadOn
    addBranch
    let choice ← addState 0
    let leave ← addState 0
    addBranch
    addBranch
    addBranch
    pure ⟨choice, leave, false⟩
  else do
    let choice ← addState 0
    let inner ← part
    addBranch
    inner.leadOn
    pure ⟨choice, choice, true⟩

/-- A part `n + 1` times or more. -/
def moreThan (part : Build Fragment) (n : Nat) : Build Fragment := do
  if n = 0 then
    let inner ← part
    let choice ← addState 0
    inner.leadOn
    addBranch
    pure ⟨inner.first, choice, true⟩
  else
    let required ← exactly part n
    let inner ← part
    let choice ← addState 0
    required.leadOn
    inner.leadOn
    addBranch
    pure ⟨required.first, choice, true⟩

def choice : List (Build Fragment) → Build Fragment
  | [] => lone
  | [part] => part
  | first :: second :: rest => do
    let a ← first
    let b ← second
    let start ← addState 0
    let leave ← addState 0
    enter a
    enter b
    rest.forM (· >>= enter)
    pure ⟨start, leave, false⟩
where
  enter (part : Fragment) : Build Unit := do
    addBranch
    part.leadOn

/-- Tables of states by what they lead to. A table has a number of slots; the state noted last in a
slot is the one that is found. -/
abbrev Slots := Array (Option (List Nat × Nat))

/-- A number of 64 bits for a list of numbers. -/
def fingerprint (key : List Nat) : Nat :=
  let mix (hash : UInt64) (n : Nat) : UInt64 := (hash ^^^ n.toUInt64) * 1099511628211
  (key.foldl mix 14695981039346656037).toNat

/-- The state that a key stands for: the one noted for it, or a new one. -/
def sharedState (held : Nat) (key : List Nat) : StateT Slots Build Nat := do
  let slot := fingerprint key % (← get).size
  match (← get)[slot]?.join.filter (·.1 == key) with
  | some (_, state) => pure state
  | none =>
    let state ← addState held
    modify (·.set! slot (some (key, state)))
    pure state

/-- A state that is not complete: its arrows, the latest first, each by its range and where it
leads, and the range of the arrow that leads to the next state of its sequence. -/
structure Growing where
  arrows : List (List Nat)
  current : Option ByteRange

/-- The arrows of a state when it is known where the current one leads. -/
def Growing.arrowsTo (state : Growing) (next : Nat) : List (List Nat) :=
  match state.current with
  | some range => [range.first, range.last, next] :: state.arrows
  | none => state.arrows

/-- Completes the states of a sequence from the last to the first, and gives the first. -/
def complete (target : Nat) : List Growing → StateT Slots Build Nat
  | [] => pure target
  | state :: rest => do
    let next ← complete target rest
    let arrows := state.arrowsTo next
    sharedState (8 * arrows.length) arrows.reverse.flatten

/-- Goes on from one sequence to the next: the states up to where they differ stay, and the others
are completed. -/
def goOn (target : Nat) :
    List Growing → List ByteRange → StateT Slots Build (List Growing)
  | state :: rest, range :: ranges => do
    if state.current = some range then
      let others ← goOn target rest ranges
      pure (state :: others)
    else
      let next ← complete target rest
      pure (⟨state.arrowsTo next, some range⟩ :: ranges.map fun range => ⟨[], some range⟩)
  | states, _ => pure states

/-- A character of a set by its bytes from the first to the last. The ends of sequences are shared,
and so are the starts of those in a row. -/
def forwardPart (set : CodePoints) : Build Fragment := do
  let target ← addState 0
  let build : StateT Slots Build Nat := do
    let states ← (byteSequences set).foldlM (goOn target) [⟨[], none⟩]
    complete target states
  let (start, _) ← build.run (Array.replicate 10000 none)
  pure ⟨start, target, false⟩

/-- A character of a set by its bytes from the last to the first. The starts of sequences are
shared, which are read last. -/
def backwardPart (set : CodePoints) : Build Fragment := do
  let start ← addState 0
  let leave ← addState 0
  let build : StateT Slots Build Unit :=
    (byteSequences set).forM fun ranges => do
      let arrow (next : Nat) (range : ByteRange) := sharedState 0 [next, range.first, range.last]
      let _ ← ranges.foldlM arrow leave
      addBranch
  let _ ← build.run (Array.replicate 1000 none)
  pure ⟨start, leave, false⟩

def setPart (backward : Bool) (set : CodePoints) : Build Fragment :=
  if isAscii set then do
    let leave ← addState 0
    let start ← addState (8 * set.blocks.length)
    pure ⟨start, leave, false⟩
  else if backward then backwardPart set
  else forwardPart set

/-- The texts in a tree of texts, by where some of them are over: each list goes on after the texts
that are over before it. -/
def chunks (texts : List (List UInt8)) : List (List (UInt8 × List UInt8)) :=
  let (closed, active) := texts.foldl
    (fun (closed, active) text =>
      match text with
      | b :: rest => (closed, active ++ [(b, rest)])
      | [] =>
        if active.isEmpty && !closed.isEmpty then (closed, active) else (closed ++ [active], []))
    ([], [])
  closed ++ [active]

/-- Adds the states of a tree of texts, which are at most as long as is given. -/
def addTree : (length : Nat) → List (List UInt8) → Build Nat
  | 0, _ => addState 0
  | length + 1, texts => do
    let parts := chunks texts
    for chunk in parts do
      for b in (chunk.map (·.1)).eraseDups do
        let others := chunk.filterMap fun (first, rest) => if first = b then some rest else none
        if others.any (!·.isEmpty) then
          let _ ← addTree length others
    let filled := (parts.map fun chunk => (chunk.map (·.1)).eraseDups.length).filter (· != 0)
    for arrows in filled do
      let _ ← addState (if arrows = 1 then 0 else 8 * arrows)
    addState (4 * (filled.length + parts.length - 1))

def treePart (backward : Bool) (texts : List (List Char)) : Build Fragment := do
  let encoded := texts.map fun text =>
    let bytes := Utf8.encode text
    if backward then bytes.reverse else bytes
  let leave ← addState 0
  let start ← addTree ((encoded.map List.length).foldl max 0) encoded
  pure ⟨start, leave, false⟩

namespace Expression

/-- The length of the shortest text of an expression, as far as it is known: a set of no characters
has none. -/
def leastLength : Expression → Option Nat
  | empty | assertion _ => some 0
  | literal text => some text.length
  | one chars => if chars.isEmpty then none else some 1
  | seq a b => do pure ((← a.leastLength) + (← b.leastLength))
  | alt a b => do pure (min (← a.leastLength) (← b.leastLength))
  | repetition least _ _ inner => inner.leastLength.map (least * ·)
  | capture _ inner => inner.leastLength

def isBoundToStart : Expression → Bool
  | assertion condition => condition = .start
  | seq a b => a.isBoundToStart || a.isEmptyOnly && b.isBoundToStart
  | alt a b => a.isBoundToStart && b.isBoundToStart
  | repetition least _ _ inner => 0 < least && inner.isBoundToStart
  | capture _ inner => inner.isBoundToStart
  | _ => false

def isBoundToFinish : Expression → Bool
  | assertion condition => condition = .finish
  | seq a b => b.isBoundToFinish || b.isEmptyOnly && a.isBoundToFinish
  | alt a b => a.isBoundToFinish && b.isBoundToFinish
  | repetition least _ _ inner => 0 < least && inner.isBoundToFinish
  | capture _ inner => inner.isBoundToFinish
  | _ => false

def text? : Expression → Option (List Char)
  | literal text => some text
  | _ => none

/-- The part of an expression, given those of its alternatives. Several texts share a tree. -/
def joinedPart (backward : Bool) (expression : Expression) (parts : List (Build Fragment)) :
    Build Fragment :=
  match expression.branches.mapM text? with
  | some (first :: second :: rest) => treePart backward (first :: second :: rest)
  | _ => choice parts

/-- The parts of the alternatives of an expression. Read backwards, the last of a sequence comes
first, and groups are not noted. -/
def parts (backward : Bool) : Expression → List (Build Fragment)
  | empty | assertion _ => [lone]
  | literal text => [exactly lone (Utf8.encode text).length]
  | one chars => [setPart backward chars]
  | seq a b =>
    let first := a.joinedPart backward (a.parts backward)
    let second := b.joinedPart backward (b.parts backward)
    let inOrder (first second : Build Fragment) : Build Fragment := do
      let before ← first
      let after ← second
      before.leadOn
      pure ⟨before.first, after.last, after.choosing⟩
    [if backward then inOrder second first else inOrder first second]
  | alt a b => a.joinedPart backward (a.parts backward) :: b.parts backward
  | capture _ a =>
    let inner := a.joinedPart backward (a.parts backward)
    [if backward then inner
      else do
        let start ← addState 0
        let inside ← inner
        let leave ← addState 0
        inside.leadOn
        pure ⟨start, leave, false⟩]
  | repetition least most _ a =>
    let inner := a.joinedPart backward (a.parts backward)
    [match least, most with
      | 0, some 1 => optionally inner
      | 0, none => anyTimes inner (!a.leastLength.any (0 < ·))
      | n + 1, none => moreThan inner n
      | least, some most => if least = most then exactly inner least else between inner least most]

/-- Builds the automaton of an expression. If its texts may be anywhere in a text, a loop over any
bytes comes before them; read forwards, the whole is noted as a group. -/
def automaton (backward : Bool) (expression : Expression) : Build Unit := do
  let _ ← addState 0
  if !(if backward then expression.isBoundToFinish else expression.isBoundToStart) then
    let _ ← addState 0
    let _ ← addState 8
    addBranch
    addBranch
  if !backward then
    let _ ← addState 0
  let part ← expression.joinedPart backward (expression.parts backward)
  part.leadOn
  if !backward then
    let _ ← addState 0
  let _ ← addState 0

def footprint (backward : Bool) (expression : Expression) : Nat :=
  ((expression.automaton backward).run ⟨0, 0⟩).2.memory

/-- Whether both automata of an expression take no more memory than they may. -/
def isWithinLimit (expression : Expression) : Bool :=
  expression.footprint false ≤ memoryLimit && expression.footprint true ≤ memoryLimit

end Expression

end RouteTable.Regex
