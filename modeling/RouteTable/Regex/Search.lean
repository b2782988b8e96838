import RouteTable.Regex.Program
import RouteTable.Regex.Parser
import RouteTable.Regex.Footprint

/-!
Searching a text for the first match of a program, the leftmost, and of those that start there the
one its choices prefer. Places are numbers of characters.
-/

namespace RouteTable.Regex

/-- A run of a program: the next instruction, the place in the text, and the places noted. -/
structure Thread where
  instruction : Nat
  place : Nat
  slots : Array (Option Nat)

def Thread.pair (length : Nat) (thread : Thread) : Nat :=
  thread.instruction * (length + 1) + thread.place

/-- Trying a pair that was not tried leaves fewer untried. -/
theorem count_untried_lt {tried : Array Bool} {pair : Nat} (hpair : pair < tried.size)
    (hnew : ¬tried[pair] = true) : (tried.set pair true).count false < tried.count false := by
  have hfalse : tried[pair] = false := by simpa using hnew
  have hpos : 0 < tried.count false := Array.count_pos_iff.2 (hfalse ▸ Array.getElem_mem hpair)
  rw [Array.count_set hpair, hfalse, beq_self_eq_true, if_pos rfl,
    if_neg (show ¬(true == false) = true by decide)]
  omega

/-- Runs threads one after another, each up to its end, until one of them matches. What a thread
does depends only on its instruction and its place, so a pair of them that was tried is not tried
again; `tried` notes the pairs. -/
def runThreads (program : Array Instruction) (text : Array Char) (tried : Array Bool)
    (threads : List Thread) : Option Thread × Array Bool :=
  match threads with
  | [] => (none, tried)
  | thread :: rest =>
    if hpair : thread.pair text.size < tried.size then
      if _hold : tried[thread.pair text.size] = true then runThreads program text tried rest
      else
        let noted := tried.set (thread.pair text.size) true
        match program[thread.instruction]? with
        | none => (some thread, noted)
        | some instruction => runThreads program text noted (follow text thread instruction ++ rest)
    else runThreads program text tried rest
termination_by (tried.count false, threads.length)
decreasing_by
  · exact Prod.Lex.right _ (by simp)
  · exact Prod.Lex.left _ _ (count_untried_lt hpair _hold)
  · exact Prod.Lex.right _ (by simp)
where
  /-- The threads that go on after an instruction, the preferred first. -/
  follow (text : Array Char) (thread : Thread) : Instruction → List Thread
    | .one chars =>
      match text[thread.place]? with
      | some c =>
        if chars.holds c.toNat then
          [{ thread with instruction := thread.instruction + 1, place := thread.place + 1 }]
        else []
      | none => []
    | .assertion condition =>
      let before := if thread.place = 0 then none else text[thread.place - 1]?
      if condition.holds before text[thread.place]? then
        [{ thread with instruction := thread.instruction + 1 }]
      else []
    | .split first second =>
      [{ thread with instruction := first }, { thread with instruction := second }]
    | .jump target => [{ thread with instruction := target }]
    | .save slot =>
      [{ thread with
          instruction := thread.instruction + 1
          slots := thread.slots.set! slot (some thread.place) }]

structure Match where
  first : Nat
  last : Nat
  slots : Array (Option Nat)

structure Compiled where
  source : String
  program : Array Instruction
  groups : Groups

def compile (source : String) : Except Fault Compiled := do
  let (expression, groups) ← parse source
  if expression.isWithinLimit then pure ⟨source, expression.code #[], groups⟩
  else throw .tooLarge

namespace Compiled

/-- The first match that starts at one of `count` places, from a place on. -/
def searchFrom (regex : Compiled) (text : Array Char) (tried : Array Bool) :
    (count place : Nat) → Option Match
  | 0, _ => none
  | count + 1, place =>
    let slots := Array.replicate (2 * regex.groups.count + 2) none
    match runThreads regex.program text tried [⟨0, place, slots⟩] with
    | (some thread, _) => some ⟨place, thread.place, thread.slots⟩
    | (none, tried) => regex.searchFrom text tried count (place + 1)

def find? (regex : Compiled) (text : Array Char) (place : Nat) : Option Match :=
  let tried := Array.replicate ((regex.program.size + 1) * (text.size + 1)) false
  regex.searchFrom text tried (text.size + 1 - place) place

/-- The matches of a text from a place on, at most `count` of them, none of which overlap. An empty
one at the end of the match before does not count. -/
def matchesFrom (regex : Compiled) (text : Array Char) (previous : Option Nat) :
    (count place : Nat) → List Match
  | 0, _ => []
  | count + 1, place =>
    let next :=
      match regex.find? text place with
      | some found =>
        if found.first = found.last ∧ some found.last = previous then regex.find? text (place + 1)
        else some found
      | none => none
    match next with
    | some found => found :: regex.matchesFrom text (some found.last) count found.last
    | none => []

def allMatches (regex : Compiled) (text : Array Char) : List Match :=
  regex.matchesFrom text none (text.size + 2) 0

end Compiled

def Match.group? (found : Match) (group : Nat) : Option (Nat × Nat) :=
  if group = 0 then some (found.first, found.last)
  else do
    let first ← (← found.slots[2 * group]?)
    let last ← (← found.slots[2 * group + 1]?)
    pure (first, last)

end RouteTable.Regex
