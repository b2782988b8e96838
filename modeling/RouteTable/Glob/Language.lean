/-!
Regular expressions over characters, without captures, and whether they match a whole text. A text
is matched character by character: what an expression still has to match after a character is a
finite list of expressions.
-/

namespace RouteTable.Glob

/-- A set of characters: what lies in one of the ranges `kept` and in none of `removed`, or, when
negated, every other character. A range holds both of its ends. -/
structure CharSet where
  negated : Bool
  kept : List (Char × Char)
  removed : List (Char × Char)
deriving DecidableEq

namespace CharSet

def inRange (c : Char) (range : Char × Char) : Bool :=
  range.1 ≤ c && c ≤ range.2

def contains (set : CharSet) (c : Char) : Bool :=
  set.negated != (set.kept.any (inRange c) && !set.removed.any (inRange c))

def single (c : Char) : CharSet := ⟨false, [(c, c)], []⟩

def allBut (c : Char) : CharSet := ⟨true, [(c, c)], []⟩

@[simp] theorem contains_single (c d : Char) : (single c).contains d = (d == c) := by
  rw [Bool.eq_iff_iff]
  simp only [contains, single, inRange, List.any_cons, List.any_nil, Bool.or_false, Bool.not_false,
    Bool.and_true, Bool.false_bne, Bool.and_eq_true, decide_eq_true_eq, beq_iff_eq]
  exact ⟨fun h => Char.le_antisymm h.2 h.1, fun h => h ▸ ⟨Char.le_refl _, Char.le_refl _⟩⟩

@[simp] theorem contains_allBut (c d : Char) : (allBut c).contains d = (d != c) := by
  have h := contains_single c d
  simp only [contains, single, Bool.false_bne] at h
  simp only [contains, allBut, h, bne, Bool.true_beq]

end CharSet

inductive Language where
  /-- The empty text. -/
  | empty
  /-- One character of a set. -/
  | one (set : CharSet)
  /-- A text of the first, then a text of the second. -/
  | seq (first second : Language)
  /-- A text of either. -/
  | alt (first second : Language)
  /-- Any number of texts of one, one after another. -/
  | star (inner : Language)
deriving DecidableEq

namespace Language

def nullable : Language → Bool
  | empty => true
  | one _ => false
  | seq a b => a.nullable && b.nullable
  | alt a b => a.nullable || b.nullable
  | star _ => true

/-- The sequence of two expressions, the first of which may be over. -/
def followedBy : Language → Language → Language
  | empty, b => b
  | a, b => seq a b

/-- What is left to match after the character `c`, in all ways to match it. -/
def residuals (c : Char) : Language → List Language
  | empty => []
  | one set => if set.contains c then [empty] else []
  | seq a b =>
    (residuals c a).map (·.followedBy b) ++ if a.nullable then residuals c b else []
  | alt a b => residuals c a ++ residuals c b
  | star a => (residuals c a).map (·.followedBy (star a))

def step (languages : List Language) (c : Char) : List Language :=
  (languages.flatMap (residuals c)).eraseDups

def accepts (language : Language) (text : List Char) : Bool :=
  (text.foldl step [language]).any nullable

def sequence : List Language → Language
  | [] => empty
  | [a] => a
  | a :: rest => seq a (sequence rest)

def anyOf (first : Language) : List Language → Language
  | [] => first
  | second :: rest => alt first (anyOf second rest)

def optional (a : Language) : Language := alt a empty

def plus (a : Language) : Language := seq a (star a)

end Language

end RouteTable.Glob
