import RouteTable.Text.CodePoints
import Mathlib.Logic.Basic

/-!
What is in unions and complements of sets of code points. Blocks that meet are made one, and between
two of them there are at most surrogates, which no character has; so a union holds no character that
neither set holds. If their blocks are in order, it holds all that they hold, and the complement of
a set holds every other character.
-/

namespace RouteTable.Text

namespace Block

/-- A block made of two that meet holds what one of them holds. -/
theorem holds_of_holds_meeting {a b : Block} {n : Nat} (hn : n.isValidChar)
    (hmeet : b.first ≤ next a.last) (h : Block.holds ⟨a.first, max a.last b.last⟩ n = true) :
    a.holds n = true ∨ b.holds n = true := by
  simp only [holds, Bool.and_eq_true, decide_eq_true_eq] at h ⊢
  by_cases hlast : n ≤ a.last
  · exact Or.inl ⟨h.1, hlast⟩
  · refine Or.inr ⟨?_, by omega⟩
    unfold next at hmeet
    unfold Nat.isValidChar at hn
    split at hmeet
    · omega
    · omega

theorem holds_of_holds_joined {blocks : List Block} {n : Nat} (hn : n.isValidChar)
    (h : (joined blocks).any (·.holds n) = true) : blocks.any (·.holds n) = true := by
  fun_induction joined blocks with
  | case1 => exact h
  | case2 => exact h
  | case3 a b rest hmeet ih =>
    have hjoined := ih h
    simp only [List.any_cons, Bool.or_eq_true] at hjoined ⊢
    rcases hjoined with hblock | hrest
    · rcases holds_of_holds_meeting hn hmeet hblock with ha | hb
      · exact Or.inl ha
      · exact Or.inr (Or.inl hb)
    · exact Or.inr (Or.inr hrest)
  | case4 a b rest _ ih =>
    rw [List.any_cons, Bool.or_eq_true] at h ⊢
    exact h.imp_right ih

/-- Blocks of which none is empty, each after those before it. -/
structure Ordered (blocks : List Block) : Prop where
  filled : ∀ block ∈ blocks, block.first ≤ block.last
  apart : blocks.Pairwise fun a b => a.last < b.first

/-- Blocks of which none is empty, in the order of their first code points. They may overlap. -/
structure Sorted (blocks : List Block) : Prop where
  filled : ∀ block ∈ blocks, block.first ≤ block.last
  firsts : blocks.Pairwise fun a b => a.first ≤ b.first

section Order

variable {blocks : List Block} {a b : Block} {start n : Nat}

theorem next_le_iff (hn : n.isValidChar) : next start ≤ n ↔ start < n := by
  unfold Nat.isValidChar at hn
  unfold next
  split <;> omega

theorem le_previous_iff (hn : n.isValidChar) (hstart : 0 < start) :
    n ≤ previous start ↔ n < start := by
  unfold Nat.isValidChar at hn
  unfold previous
  split <;> omega

theorem lt_of_next_lt (h : next a.last < b.first) : a.last < b.first := by
  unfold next at h
  split at h <;> omega

theorem Sorted.tail (h : Sorted (a :: blocks)) : Sorted blocks :=
  ⟨fun block hmem => h.filled block (List.mem_cons_of_mem _ hmem), h.firsts.tail⟩

/-- The first two blocks made one are in the place of both. -/
theorem Sorted.merge (h : Sorted (a :: b :: blocks)) :
    Sorted (⟨a.first, max a.last b.last⟩ :: blocks) := by
  have hfirsts := List.pairwise_cons.1 h.firsts
  refine ⟨List.forall_mem_cons.2 ⟨?_, h.tail.tail.filled⟩, List.pairwise_cons.2 ⟨?_, ?_⟩⟩
  · exact Nat.le_trans (h.filled a List.mem_cons_self) (Nat.le_max_left _ _)
  · exact fun block hmem => hfirsts.1 block (List.mem_cons_of_mem _ hmem)
  · exact hfirsts.2.tail

theorem Sorted.first_le_of_mem_joined (h : Sorted (a :: blocks)) {block : Block}
    (hmem : block ∈ joined (a :: blocks)) : a.first ≤ block.first := by
  induction blocks generalizing a with
  | nil =>
    rw [joined, List.mem_singleton] at hmem
    exact hmem ▸ Nat.le_refl _
  | cons b blocks ih =>
    rw [joined] at hmem
    split at hmem
    · exact ih (a := ⟨a.first, max a.last b.last⟩) h.merge hmem
    · rcases List.mem_cons.1 hmem with rfl | hmem
      · exact Nat.le_refl _
      · exact Nat.le_trans ((List.pairwise_cons.1 h.firsts).1 b List.mem_cons_self)
          (ih h.tail hmem)

theorem Sorted.ordered_joined (h : Sorted blocks) : Ordered (joined blocks) := by
  fun_induction joined blocks with
  | case1 => exact ⟨h.filled, .nil⟩
  | case2 a => exact ⟨h.filled, List.pairwise_singleton _ _⟩
  | case3 a b rest _ ih => exact ih h.merge
  | case4 a b rest hapart ih =>
    have hrest := ih h.tail
    refine ⟨List.forall_mem_cons.2 ⟨h.filled a List.mem_cons_self, hrest.filled⟩,
      List.pairwise_cons.2 ⟨fun block hmem => ?_, hrest.apart⟩⟩
    exact Nat.lt_of_lt_of_le (lt_of_next_lt (Nat.lt_of_not_le hapart))
      (h.tail.first_le_of_mem_joined hmem)

/-- Making blocks one leaves nothing out. -/
theorem Sorted.holds_joined (h : Sorted blocks) (hn : blocks.any (·.holds n) = true) :
    (joined blocks).any (·.holds n) = true := by
  fun_induction joined blocks with
  | case1 => exact hn
  | case2 => exact hn
  | case3 a b rest _ ih =>
    apply ih h.merge
    have hfirst := (List.pairwise_cons.1 h.firsts).1 b List.mem_cons_self
    simp only [List.any_cons, Bool.or_eq_true, holds, Bool.and_eq_true, decide_eq_true_eq] at hn ⊢
    rcases hn with ha | hb | hrest
    · exact Or.inl ⟨ha.1, Nat.le_trans ha.2 (Nat.le_max_left _ _)⟩
    · exact Or.inl ⟨Nat.le_trans hfirst hb.1, Nat.le_trans hb.2 (Nat.le_max_right _ _)⟩
    · exact Or.inr hrest
  | case4 a b rest _ ih =>
    rw [List.any_cons, Bool.or_eq_true] at hn ⊢
    exact hn.imp_right (ih h.tail)

theorem Ordered.sorted (h : Ordered blocks) : Sorted blocks := by
  refine ⟨h.filled, h.apart.imp_of_mem ?_⟩
  intro a b ha _ hapart
  exact Nat.le_trans (h.filled a ha) (Nat.le_of_lt hapart)

theorem Sorted.merged {others : List Block} (h : Sorted blocks) (hothers : Sorted others) :
    Sorted (blocks.merge others fun a b => a.first ≤ b.first) := by
  refine ⟨fun block hmem => ?_, ?_⟩
  · rcases List.mem_merge.1 hmem with hmem | hmem
    · exact h.filled block hmem
    · exact hothers.filled block hmem
  · refine (List.pairwise_merge ?_ ?_ blocks others ?_ ?_).imp of_decide_eq_true
    · intro a b c hab hbc
      simp only [decide_eq_true_eq] at hab hbc ⊢
      exact Nat.le_trans hab hbc
    · intro a b
      simp only [Bool.or_eq_true, decide_eq_true_eq]
      exact Nat.le_total _ _
    · exact h.firsts.imp decide_eq_true
    · exact hothers.firsts.imp decide_eq_true

/-- The code points from a place on that no block holds are those between the blocks. -/
theorem Ordered.holds_between_iff (h : Ordered blocks) (hn : n.isValidChar)
    (hstart : ∀ block ∈ blocks, block.last < n → start ≤ n) :
    (between start blocks).any (·.holds n) = true ↔
      start ≤ n ∧ blocks.any (·.holds n) = false := by
  have hbound : n ≤ 0x10FFFF := by
    unfold Nat.isValidChar at hn
    omega
  induction blocks generalizing start with
  | nil =>
    rw [between]
    split <;> simp [holds] <;> omega
  | cons block rest ih =>
    have hfilled := h.filled block List.mem_cons_self
    have hlater := (List.pairwise_cons.1 h.apart).1
    have hrest : Ordered rest :=
      ⟨fun b hb => h.filled b (List.mem_cons_of_mem _ hb), h.apart.tail⟩
    have hafter : (between (next block.last) rest).any (·.holds n) = true ↔
        block.last < n ∧ rest.any (·.holds n) = false := by
      rw [← next_le_iff hn]
      refine ih hrest fun b hb hlast => (next_le_iff hn).2 ?_
      have := hlater b hb
      have := hrest.filled b hb
      omega
    have hbehind : n ≤ block.last → rest.any (·.holds n) = false := by
      intro hle
      simp only [List.any_eq_false, holds, Bool.and_eq_true, decide_eq_true_eq]
      rintro b hb ⟨hfirst, -⟩
      have := hlater b hb
      omega
    have hreached := hstart block List.mem_cons_self
    have hblock : block.holds n = false ↔ ¬ (block.first ≤ n ∧ n ≤ block.last) := by
      rw [← Bool.not_eq_true, holds, Bool.and_eq_true, decide_eq_true_eq, decide_eq_true_eq]
    rw [between, List.any_cons, Bool.or_eq_false_iff, hblock]
    split
    next hfirst =>
      have hgap : holds ⟨start, previous block.first⟩ n = true ↔ start ≤ n ∧ n < block.first := by
        rw [holds, Bool.and_eq_true, decide_eq_true_eq, decide_eq_true_eq,
          le_previous_iff hn (Nat.zero_lt_of_lt hfirst)]
      rw [List.any_cons, Bool.or_eq_true, hgap, hafter]
      constructor
      · rintro (⟨hfrom, hlt⟩ | ⟨hlt, hrest⟩)
        · exact ⟨hfrom, by omega, hbehind (by omega)⟩
        · exact ⟨hreached hlt, by omega, hrest⟩
      · rintro ⟨hfrom, hblock, hrest⟩
        by_cases hlt : n < block.first
        · exact Or.inl ⟨hfrom, hlt⟩
        · exact Or.inr ⟨by omega, hrest⟩
    next hfirst =>
      rw [hafter]
      constructor
      · rintro ⟨hlt, hrest⟩
        exact ⟨hreached hlt, by omega, hrest⟩
      · rintro ⟨hfrom, hblock, hrest⟩
        exact ⟨by omega, hrest⟩

end Order

def apart (a b : Block) : Bool :=
  Nat.blt a.last b.first || Nat.blt b.last a.first

theorem holds_eq_false_of_apart {a b : Block} {n : Nat} (h : a.apart b = true)
    (hb : b.holds n = true) : a.holds n = false := by
  simp only [apart, Nat.blt_eq, Bool.or_eq_true] at h
  simp only [holds, Bool.and_eq_true, decide_eq_true_eq] at hb
  simp only [holds, Bool.and_eq_false_iff, decide_eq_false_iff_not]
  omega

end Block

namespace CodePoints

variable {n : Nat}

def apart (set : CodePoints) (blocks : List Block) : Bool :=
  set.blocks.all fun block => blocks.all block.apart

theorem holds_eq_false_of_apart {set : CodePoints} {blocks : List Block}
    (h : set.apart blocks = true) {block : Block} (hmem : block ∈ blocks)
    (hn : block.holds n = true) : set.holds n = false := by
  simp only [apart, List.all_eq_true] at h
  simp only [holds, List.any_eq_false, Bool.not_eq_true]
  intro own hown
  exact Block.holds_eq_false_of_apart (h own hown block hmem) hn

theorem holds_of_holds_union {a b : CodePoints} (hn : n.isValidChar)
    (h : (a.union b).holds n = true) : a.holds n = true ∨ b.holds n = true := by
  have hmerged := Block.holds_of_holds_joined hn h
  simp only [List.any_eq_true, List.mem_merge] at hmerged
  obtain ⟨block, hmem, hblock⟩ := hmerged
  simp only [holds, List.any_eq_true]
  exact hmem.imp (fun hmem => ⟨block, hmem, hblock⟩) fun hmem => ⟨block, hmem, hblock⟩

theorem union_eq_false {a b : CodePoints} (hn : n.isValidChar) (ha : a.holds n = false)
    (hb : b.holds n = false) : (a.union b).holds n = false := by
  rw [← Bool.not_eq_true]
  intro h
  rcases holds_of_holds_union hn h with h | h
  · rw [ha] at h
    cases h
  · rw [hb] at h
    cases h

def IsOrdered (set : CodePoints) : Prop := Block.Ordered set.blocks

theorem isOrdered_empty : empty.IsOrdered := ⟨by simp [empty], .nil⟩

theorem isOrdered_range {first last : Nat} (h : first ≤ last) : (range first last).IsOrdered :=
  ⟨List.forall_mem_singleton.2 h, List.pairwise_singleton _ _⟩

theorem isOrdered_union {a b : CodePoints} (ha : a.IsOrdered) (hb : b.IsOrdered) :
    (a.union b).IsOrdered :=
  (ha.sorted.merged hb.sorted).ordered_joined

theorem holds_union_iff {a b : CodePoints} (ha : a.IsOrdered) (hb : b.IsOrdered)
    (hn : n.isValidChar) : (a.union b).holds n = true ↔ a.holds n = true ∨ b.holds n = true := by
  refine ⟨holds_of_holds_union hn, fun h => ?_⟩
  refine (ha.sorted.merged hb.sorted).holds_joined ?_
  simp only [holds, List.any_eq_true] at h ⊢
  rcases h with ⟨block, hmem, hblock⟩ | ⟨block, hmem, hblock⟩
  · exact ⟨block, List.mem_merge.2 (Or.inl hmem), hblock⟩
  · exact ⟨block, List.mem_merge.2 (Or.inr hmem), hblock⟩

theorem holds_range_iff {first last : Nat} :
    (range first last).holds n = true ↔ first ≤ n ∧ n ≤ last := by
  simp [range, holds, Block.holds]

theorem holds_complement_iff {set : CodePoints} (h : set.IsOrdered) (hn : n.isValidChar) :
    set.complement.holds n = true ↔ set.holds n = false :=
  (h.holds_between_iff hn fun _ _ _ => Nat.zero_le n).trans (and_iff_right (Nat.zero_le n))

theorem unions_eq_false {sets : List CodePoints} (hn : n.isValidChar)
    (h : ∀ set ∈ sets, set.holds n = false) : (unions sets).holds n = false := by
  induction sets with
  | nil => rfl
  | cons set rest ih =>
    exact union_eq_false hn (h set List.mem_cons_self)
      (ih fun other hmem => h other (List.mem_cons_of_mem _ hmem))

end CodePoints

end RouteTable.Text
