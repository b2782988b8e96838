/-!
Sets of code points as lists of blocks, in order and apart from each other, and their unions,
intersections, differences and complements. Surrogates are in no set.
-/

namespace RouteTable.Text

structure Block where
  first : Nat
  last : Nat
deriving DecidableEq

structure CodePoints where
  blocks : List Block
deriving DecidableEq

namespace Block

def holds (block : Block) (codePoint : Nat) : Bool :=
  block.first ≤ codePoint && codePoint ≤ block.last

/-- The code point after one, surrogates passed over. -/
def next (codePoint : Nat) : Nat :=
  if codePoint = 0xD7FF then 0xE000 else codePoint + 1

/-- The code point before one, surrogates passed over. -/
def previous (codePoint : Nat) : Nat :=
  if codePoint = 0xE000 then 0xD7FF else codePoint - 1

/-- Blocks in the order of their first code points, with those that meet made one. -/
def joined : List Block → List Block
  | [] => []
  | [block] => [block]
  | a :: b :: rest =>
    if b.first ≤ next a.last then joined (⟨a.first, max a.last b.last⟩ :: rest)
    else a :: joined (b :: rest)
termination_by blocks => blocks.length

/-- The blocks between others, from a code point on. -/
def between (start : Nat) : List Block → List Block
  | [] => if start ≤ 0x10FFFF then [⟨start, 0x10FFFF⟩] else []
  | block :: rest =>
    let after := between (next block.last) rest
    if start < block.first then ⟨start, previous block.first⟩ :: after else after

end Block

namespace CodePoints

/-- The set of the blocks that numerals give: each is a block's first code point above its last,
twenty-four bits for each, so that `0x0000E0_0000F6` is `à` to `ö`. -/
def ofNumerals (numerals : List Nat) : CodePoints :=
  ⟨numerals.map fun numeral => ⟨numeral / 0x1000000, numeral % 0x1000000⟩⟩

def ofBlocks (blocks : List Block) : CodePoints :=
  ⟨Block.joined (blocks.mergeSort fun a b => a.first ≤ b.first)⟩

def holds (set : CodePoints) (codePoint : Nat) : Bool :=
  set.blocks.any (·.holds codePoint)

def empty : CodePoints := ⟨[]⟩

def full : CodePoints := ⟨[⟨0, 0x10FFFF⟩]⟩

def isEmpty (set : CodePoints) : Bool :=
  set.blocks.isEmpty

def range (first last : Nat) : CodePoints := ⟨[⟨first, last⟩]⟩

def single (codePoint : Nat) : CodePoints := range codePoint codePoint

def union (a b : CodePoints) : CodePoints :=
  ⟨Block.joined (a.blocks.merge b.blocks fun a b => a.first ≤ b.first)⟩

def complement (set : CodePoints) : CodePoints :=
  ⟨Block.between 0 set.blocks⟩

def intersection (a b : CodePoints) : CodePoints :=
  (a.complement.union b.complement).complement

def difference (a b : CodePoints) : CodePoints :=
  (a.complement.union b).complement

def symmetricDifference (a b : CodePoints) : CodePoints :=
  (a.difference b).union (b.difference a)

def unions : List CodePoints → CodePoints
  | [] => empty
  | set :: rest => set.union (unions rest)

end CodePoints

/-- A set of code points that has names. They are in lower case, without spaces, dashes and
underscores, as the names of properties are compared. -/
structure NamedSet where
  names : List String
  points : CodePoints

end RouteTable.Text
