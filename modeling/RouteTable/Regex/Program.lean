import RouteTable.Regex.Expression

/-!
Regular expressions as programs. A program runs from its first instruction, and matches when it
runs past its last; a split tries its first target first.
-/

namespace RouteTable.Regex

open Text

inductive Instruction where
  | one (chars : CodePoints)
  | assertion (condition : Assertion)
  | split (first second : Nat)
  | jump (target : Nat)
  /-- Notes the place in the text under a number. -/
  | save (slot : Nat)

/-- A choice to go on or to leave, in the order that greed asks for. -/
def choose (greedy : Bool) (onward leave : Nat) : Instruction :=
  if greedy then .split onward leave else .split leave onward

/-- A program with the code of the same expression added `n` times. -/
def addRepeated (code : Array Instruction → Array Instruction) :
    (n : Nat) → Array Instruction → Array Instruction
  | 0, program => program
  | n + 1, program => addRepeated code n (code program)

/-- A program with the code of the same expression added `n` times, each time with the choice to
leave to an address. -/
def addOptional (code : Array Instruction → Array Instruction) (greedy : Bool) (leave : Nat) :
    (n : Nat) → Array Instruction → Array Instruction
  | 0, program => program
  | n + 1, program =>
    addOptional code greedy leave n
      (code (program.push (choose greedy (program.size + 1) leave)))

namespace Expression

/-- How many instructions an expression takes. -/
def length : Expression → Nat
  | empty => 0
  | literal text => text.length
  | one _ | assertion _ => 1
  | seq a b => a.length + b.length
  | alt a b => a.length + b.length + 2
  | repetition least most _ inner =>
    match most with
    | some most => least * inner.length + (most - least) * (inner.length + 1)
    | none => if least = 0 then inner.length + 2 else least * inner.length + 1
  | capture _ inner => inner.length + 2

/-- A program with the code of an expression added, which goes on after its last instruction. An
expression that may match the empty text is entered once before it is repeated any number of times,
so that an empty text does not come before what follows it. -/
def code (expression : Expression) (program : Array Instruction) : Array Instruction :=
  match expression with
  | empty => program
  | literal text => text.foldl (fun program c => program.push (.one (.single c.toNat))) program
  | one chars => program.push (.one chars)
  | assertion condition => program.push (.assertion condition)
  | seq a b => b.code (a.code program)
  | alt a b =>
    let second := program.size + a.length + 2
    let first := a.code (program.push (.split (program.size + 1) second))
    b.code (first.push (.jump (second + b.length)))
  | capture group inner =>
    (inner.code (program.push (.save (2 * group)))).push (.save (2 * group + 1))
  | repetition least most greedy inner =>
    match most with
    | some most =>
      let required := addRepeated inner.code least program
      let leave := required.size + (most - least) * (inner.length + 1)
      addOptional inner.code greedy leave (most - least) required
    | none =>
      if least = 0 then
        let start := program.size
        let leave := start + inner.length + 2
        let body := inner.code (program.push (choose greedy (start + 1) leave))
        body.push (if inner.mayBeEmpty then choose greedy (start + 1) leave else .jump start)
      else
        let required := addRepeated inner.code (least - 1) program
        (inner.code required).push
          (choose greedy required.size (required.size + inner.length + 1))

end Expression

end RouteTable.Regex
