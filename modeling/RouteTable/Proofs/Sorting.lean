import Mathlib.Data.List.Sort

/-!
Pairs in the order of their keys. Under distinct keys, the order leaves no choice.
-/

namespace RouteTable

variable {κ ν : Type} [LE κ]

/-- Pairs in the order of distinct keys are known by which they are. -/
theorem eq_of_pairwise_lt [LT κ] [Std.LawfulOrderLT κ] {first second : List (κ × ν)}
    (hfirst : first.Pairwise fun a b => a.1 < b.1)
    (hsecond : second.Pairwise fun a b => a.1 < b.1)
    (hmem : ∀ pair, pair ∈ first ↔ pair ∈ second) : first = second := by
  have : Std.Antisymm fun a b : κ × ν => a.1 < b.1 :=
    ⟨fun _ _ hab hba => absurd hba (Std.not_gt_of_lt hab)⟩
  have : Std.Irrefl fun a b : κ × ν => a.1 < b.1 := ⟨fun _ => Std.lt_irrefl⟩
  exact hfirst.eq_of_mem_iff hsecond hmem

variable [DecidableLE κ]

def sortByKey (pairs : List (κ × ν)) : List (κ × ν) :=
  pairs.mergeSort fun a b => a.1 ≤ b.1

theorem perm_sortByKey (pairs : List (κ × ν)) : (sortByKey pairs).Perm pairs :=
  List.mergeSort_perm _ _

theorem nodup_keys_sortByKey_iff {pairs : List (κ × ν)} :
    ((sortByKey pairs).map Prod.fst).Nodup ↔ (pairs.map Prod.fst).Nodup :=
  ((perm_sortByKey pairs).map Prod.fst).nodup_iff

theorem sortByKey_of_pairwise {pairs : List (κ × ν)} (h : pairs.Pairwise fun a b => a.1 ≤ b.1) :
    sortByKey pairs = pairs :=
  List.mergeSort_of_pairwise (h.imp fun hab => decide_eq_true hab)

variable [Std.IsLinearOrder κ]

theorem pairwise_le_sortByKey (pairs : List (κ × ν)) :
    (sortByKey pairs).Pairwise fun a b => a.1 ≤ b.1 := by
  have h : (sortByKey pairs).Pairwise fun a b => decide (a.1 ≤ b.1) = true := by
    apply List.pairwise_mergeSort
    · intro a b c hab hbc
      exact decide_eq_true (Std.le_trans (of_decide_eq_true hab) (of_decide_eq_true hbc))
    · intro a b
      rw [Bool.or_eq_true, decide_eq_true_iff, decide_eq_true_iff]
      exact Std.le_total
  exact h.imp fun hab => of_decide_eq_true hab

variable [LT κ] [Std.LawfulOrderLT κ]

theorem pairwise_lt_sortByKey {pairs : List (κ × ν)} (h : (pairs.map Prod.fst).Nodup) :
    (sortByKey pairs).Pairwise fun a b => a.1 < b.1 := by
  have hne : (sortByKey pairs).Pairwise fun a b => a.1 ≠ b.1 :=
    List.pairwise_map.1 (nodup_keys_sortByKey_iff.2 h)
  exact ((pairwise_le_sortByKey pairs).and hne).imp fun hab => Std.lt_of_le_of_ne hab.1 hab.2

theorem sortByKey_eq_of_mem_iff {first second : List (κ × ν)}
    (hfirst : (first.map Prod.fst).Nodup) (hsecond : (second.map Prod.fst).Nodup)
    (hmem : ∀ pair, pair ∈ first ↔ pair ∈ second) : sortByKey first = sortByKey second := by
  apply eq_of_pairwise_lt (pairwise_lt_sortByKey hfirst) (pairwise_lt_sortByKey hsecond)
  intro pair
  rw [(perm_sortByKey first).mem_iff, (perm_sortByKey second).mem_iff]
  exact hmem pair

end RouteTable
