import RouteTable.Regex.Search

/-!
Replacing the matches of a text. In what replaces a match, `$` and the number or the name of a
group stand for the group's text, and `$$` for a dollar sign.
-/

namespace RouteTable.Regex

inductive Part where
  | text (c : Char)
  | group (index : Nat)
  | named (name : String)
deriving DecidableEq

/-- The largest number of a group, above which the digits are a name. -/
def maximalGroup : Nat := UInt64.size - 1

/-- The group that the text after `$` stands for: a number, which may have a plus sign, or a name
that no group may have. -/
def Part.ofReference (reference : List Char) : Part :=
  let digits := if reference.head? == some '+' then reference.tail else reference
  let n := digits.foldl (fun n c => 10 * n + (c.toNat - '0'.toNat)) 0
  if !digits.isEmpty && digits.all Char.isDigit && n ≤ maximalGroup then .group n
  else .named (String.ofList reference)

/-- Reads the reference after a dollar sign, if there is one: a word of letters, digits and
underscores, or anything between braces. -/
def readReference (s : List Char) : Option (Part × List Char) :=
  match s with
  | '{' :: s =>
    let reference := s.takeWhile (· != '}')
    let rest := s.dropWhile (· != '}')
    if rest.isEmpty then none else some (.ofReference reference, rest.tail)
  | _ =>
    let reference := s.takeWhile (isWord false)
    if reference.isEmpty then none else some (.ofReference reference, s.dropWhile (isWord false))

theorem length_readReference_lt {s : List Char} {result : Part × List Char}
    (h : readReference s = some result) : result.2.length < s.length := by
  unfold readReference at h
  split at h
  · rename_i t
    dsimp only at h
    split at h
    · cases h
    · cases h
      have := (List.dropWhile_sublist (· != '}') (l := t)).length_le
      simp only [List.length_tail, List.length_cons]
      omega
  · dsimp only at h
    split at h
    · cases h
    · rename_i hne
      cases h
      have hsplit :=
        congrArg List.length (List.takeWhile_append_dropWhile (p := isWord false) (l := s))
      have hpos : 0 < (s.takeWhile (isWord false)).length := by
        rw [List.length_pos_iff]
        simpa using hne
      simp only [List.length_append] at hsplit
      dsimp only
      omega

/-- The parts of a replacement. A dollar sign that no reference follows stands for itself. -/
def parts (s : List Char) : List Part :=
  match s with
  | [] => []
  | '$' :: '$' :: s => .text '$' :: parts s
  | '$' :: s =>
    match _hr : readReference s with
    | some (part, rest) => part :: parts rest
    | none => .text '$' :: parts s
  | c :: s => .text c :: parts s
termination_by s.length
decreasing_by
  · simp only [List.length_cons]
    omega
  · have := length_readReference_lt _hr
    simp only [List.length_cons] at this ⊢
    omega
  · simp
  · simp

def slice (text : Array Char) (first last : Nat) : List Char :=
  (text.extract first last).toList

/-- The text that a part stands for in a match. Groups that took no part, or are none, stand for
the empty text. -/
def Part.expand (regex : Compiled) (text : Array Char) (found : Match) : Part → List Char
  | .text c => [c]
  | .group index => groupText index
  | .named name =>
    match regex.groups.names.find? (·.1 == name) with
    | some (_, index) => groupText index
    | none => []
where
  groupText (index : Nat) : List Char :=
    match found.group? index with
    | some (first, last) => slice text first last
    | none => []

def replaceFrom (regex : Compiled) (replacement : List Part) (text : Array Char) (place : Nat) :
    List Match → List Char
  | [] => slice text place text.size
  | found :: rest =>
    slice text place found.first ++ replacement.flatMap (·.expand regex text found) ++
      replaceFrom regex replacement text found.last rest

def Compiled.replaceAll (regex : Compiled) (replacement text : String) : String :=
  let chars := text.toList.toArray
  String.ofList
    (replaceFrom regex (parts replacement.toList) chars 0 (regex.allMatches chars))

end RouteTable.Regex
