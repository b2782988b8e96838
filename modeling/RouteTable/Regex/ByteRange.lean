import RouteTable.Text.CodePoints

/-!
The encodings of the characters of a set as sequences of ranges of bytes. A sequence stands for the
characters whose first byte is in its first range, whose second byte is in its second, and so on.
-/

namespace RouteTable.Regex

open Text

structure ByteRange where
  first : Nat
  last : Nat
deriving DecidableEq

/-- The last code points of the characters that take one byte, two bytes and three bytes. -/
def lengthBounds : List Nat := [0x7F, 0x7FF, 0xFFFF]

/-- Where a block is divided so that in both parts, the last bytes of the encodings, which count
`span` code points, run through all that there are. -/
def divisionAt? (block : Block) (span : Nat) : Option (Nat × Nat) :=
  let low := block.first / span
  let high := block.last / span
  if low = high then none
  else if block.first % span ≠ 0 then some ((low + 1) * span - 1, (low + 1) * span)
  else if block.last % span ≠ span - 1 then some (high * span - 1, high * span)
  else none

/-- The end of the first and the start of the second of two parts of a block, unless the block is
encoded by one sequence of ranges. -/
def division? (block : Block) : Option (Nat × Nat) :=
  if block.first < 0xE000 ∧ 0xD7FF < block.last then some (0xD7FF, 0xE000)
  else
    match lengthBounds.find? fun bound => block.first ≤ bound && bound < block.last with
    | some bound => some (bound, bound + 1)
    | none =>
      if block.last ≤ 0x7F then none else [0x40, 0x1000, 0x40000].findSome? (divisionAt? block)

def rangesBetween (first last : Nat) : List ByteRange :=
  List.zipWith (fun a b => ⟨a.toNat, b.toNat⟩) (String.utf8EncodeChar (Char.ofNat first))
    (String.utf8EncodeChar (Char.ofNat last))

def blockSequences (block : Block) : List (List ByteRange) :=
  match division? block with
  | some (before, after) =>
    if _h : block.first ≤ before ∧ before < after ∧ after ≤ block.last then
      blockSequences ⟨block.first, before⟩ ++ blockSequences ⟨after, block.last⟩
    else []
  | none => [rangesBetween block.first block.last]
termination_by block.last - block.first
decreasing_by
  · omega
  · omega

def byteSequences (set : CodePoints) : List (List ByteRange) :=
  set.blocks.flatMap blockSequences

end RouteTable.Regex
