import RouteTable.Glob.Language
import RouteTable.Glob.Braces

/-!
The segments of a glob without groups: wildcards, character classes, escapes and literal
characters.
-/

namespace RouteTable.Glob

inductive Fault where
  | empty
  | unclosedGroup
  | absolute
  | emptySegment
  | danglingEscape
  | danglingClassEscape
  | unclosedClass
  /-- A range in a class ends before it starts. -/
  | reversedRange
deriving DecidableEq

def Fault.message : Fault → String
  | .empty => "pattern is empty"
  | .unclosedGroup => "unclosed alternation `\x7b`"
  | .absolute => "pattern must be relative to the base directory"
  | .emptySegment => "pattern contains an empty path segment"
  | .danglingEscape => "dangling escape at end of pattern"
  | .danglingClassEscape => "dangling escape in character class"
  | .unclosedClass => "unclosed character class `[`"
  | .reversedRange => "regex parse error:"

/-- What stands in a class: a character, or a dash that was not escaped and may join a range. -/
inductive Member where
  | character (c : Char)
  | dash
deriving DecidableEq

inductive Piece where
  | literal (c : Char)
  /-- `?`: any one character. -/
  | one
  /-- A run of `*`: any number of characters. -/
  | many
  | charClass (negated : Bool) (members : List Member)
deriving DecidableEq

/-- Reads the members of a class up to and over its closing bracket. A bracket in first place is a
member. -/
def classMembers (first : Bool) : List Char → Except Fault (List Member × List Char)
  | [] => .error .unclosedClass
  | '\\' :: [] => .error .danglingClassEscape
  | '\\' :: c :: s => do
    let (members, rest) ← classMembers false s
    pure (.character c :: members, rest)
  | c :: s =>
    if c == ']' && !first then pure ([], s)
    else do
      let (members, rest) ← classMembers false s
      pure ((if c == '-' then .dash else .character c) :: members, rest)

/-- Reads a class after its opening bracket: whether it is negated, its members, and the rest. -/
def readClass : List Char → Except Fault ((Bool × List Member) × List Char)
  | '!' :: s => (classMembers true s).map fun (members, rest) => ((true, members), rest)
  | '^' :: s => (classMembers true s).map fun (members, rest) => ((true, members), rest)
  | s => (classMembers true s).map fun (members, rest) => ((false, members), rest)

theorem length_classMembers_lt {first : Bool} {s : List Char} {result : List Member × List Char}
    (h : classMembers first s = .ok result) : result.2.length < s.length := by
  fun_induction classMembers first s generalizing result with
  | case1 => cases h
  | case2 => cases h
  | case3 first c s ih =>
    rcases hr : classMembers false s with e | r
    · simp [hr, bind, Except.bind] at h
    · simp only [hr, bind, Except.bind, pure, Except.pure, Except.ok.injEq] at h
      have := ih hr
      rw [← h]
      simp only [List.length_cons]
      omega
  | case4 =>
    cases h
    simp
  | case5 first c s _ _ hc ih =>
    rcases hr : classMembers false s with e | r
    · simp [hr, bind, Except.bind] at h
    · simp only [hr, bind, Except.bind, pure, Except.pure, Except.ok.injEq] at h
      have := ih hr
      rw [← h]
      simp only [List.length_cons]
      omega

theorem length_readClass_lt {s : List Char} {result : (Bool × List Member) × List Char}
    (h : readClass s = .ok result) : result.2.length < s.length := by
  have key : ∀ (negated : Bool) (t : List Char),
      (classMembers true t).map (fun (members, rest) => ((negated, members), rest)) = .ok result →
        result.2.length < t.length := by
    intro negated t ht
    rcases hr : classMembers true t with e | r
    · simp [hr, Except.map] at ht
    · have hlt := length_classMembers_lt hr
      simp only [hr, Except.map, Except.ok.injEq] at ht
      rw [← ht]
      exact hlt
  unfold readClass at h
  split at h
  · exact Nat.lt_succ_of_lt (key _ _ h)
  · exact Nat.lt_succ_of_lt (key _ _ h)
  · exact key _ _ h

def pieces (segment : List Char) : Except Fault (List Piece) :=
  match segment with
  | [] => .ok []
  | '*' :: s => do
    let rest ← pieces (s.dropWhile (· == '*'))
    pure (.many :: rest)
  | '?' :: s => do
    let rest ← pieces s
    pure (.one :: rest)
  | '[' :: s =>
    match _hc : readClass s with
    | .error fault => .error fault
    | .ok ((negated, members), rest) => do
      let others ← pieces rest
      pure (.charClass negated members :: others)
  | '\\' :: [] => .error .danglingEscape
  | '\\' :: c :: s => do
    let rest ← pieces s
    pure (.literal c :: rest)
  | c :: s => do
    let rest ← pieces s
    pure (.literal c :: rest)
termination_by segment.length
decreasing_by
  · simpa using Nat.lt_succ_of_le (List.dropWhile_sublist (· == '*') (l := s)).length_le
  · simp
  · simpa using Nat.lt_succ_of_lt (length_readClass_lt _hc)
  · simp only [List.length_cons]
    omega
  · simp

abbrev Ranges := List (Char × Char)

/-- Reads the unions of a class: the first, and those taken away from it. Two dashes take away what
follows them, and a dash between two members joins them to a range, unless a dash or the end of the
class follows it. -/
def unions : List Member → Except Fault (Ranges × List Ranges)
  | [] => .ok ([], [])
  | .dash :: .dash :: rest => do
    let (next, others) ← unions rest
    pure ([], next :: others)
  | .dash :: rest => do
    let (next, others) ← unions rest
    pure (('-', '-') :: next, others)
  | .character c :: .dash :: .character d :: rest =>
    if c ≤ d then do
      let (next, others) ← unions rest
      pure ((c, d) :: next, others)
    else .error .reversedRange
  | .character c :: rest => do
    let (next, others) ← unions rest
    pure ((c, c) :: next, others)

/-- The characters of a class. Dashes in front are members. -/
def charSet (negated : Bool) (members : List Member) : Except Fault CharSet := do
  let (kept, removed) ← unions (members.dropWhile (· == .dash))
  let dashes := if members.head? == some .dash then [('-', '-')] else []
  pure ⟨negated, dashes ++ kept, removed.flatten⟩

/-- The texts of a piece. The wildcards leave out the slash; a negated class does not. -/
def Piece.language : Piece → Except Fault Language
  | .literal c => .ok (.one (.single c))
  | .one => .ok (.one (.allBut '/'))
  | .many => .ok (.star (.one (.allBut '/')))
  | .charClass negated members => (charSet negated members).map .one

def segmentLanguage (pieces : List Piece) : Except Fault Language :=
  (pieces.mapM Piece.language).map .sequence

end RouteTable.Glob
