import RouteTable.Proofs.Text.CodePoints
import RouteTable.Script.Character

/-!
The classes of characters that tokens are made of are apart: no spacing between tokens can stand in
a name.
-/

namespace RouteTable.Script

open Text

/-- The blocks of the spacing characters that are not of ASCII. -/
def wideSpacing : List Block :=
  [⟨0x85, 0x85⟩, ⟨0xA0, 0xA0⟩, ⟨0x1680, 0x1680⟩, ⟨0x2000, 0x200A⟩, ⟨0x2028, 0x2029⟩,
   ⟨0x202F, 0x202F⟩, ⟨0x205F, 0x205F⟩, ⟨0x3000, 0x3000⟩, ⟨0xFEFF, 0xFEFF⟩]

theorem isSpacing_cases {c : Char} (h : isSpacing c = true) :
    (9 ≤ c.toNat ∧ c.toNat ≤ 13 ∨ c.toNat = 0x20) ∨
      ∃ block ∈ wideSpacing, block.holds c.toNat = true := by
  simp only [isSpacing, isLineTerminator, isBlank, Bool.or_eq_true, Bool.and_eq_true,
    beq_iff_eq, decide_eq_true_eq] at h
  rcases h with ((((rfl | rfl) | rfl) | rfl) | h) | rfl
  · exact Or.inl (by decide)
  · exact Or.inl (by decide)
  · exact Or.inr (by decide)
  · exact Or.inr (by decide)
  · simp only [wideSpacing, Block.holds, List.mem_cons, List.not_mem_nil, or_false,
      exists_eq_or_imp, exists_eq_left, Bool.and_eq_true, decide_eq_true_eq]
    omega
  · exact Or.inr (by decide)

/-- The blocks of letters and of numerals are apart from the spacing. -/
theorem letters_apart_wideSpacing {block : Block} (hmem : block ∈ wideSpacing) {n : Nat}
    (hvalid : n.isValidChar) (hn : block.holds n = true) : letters.holds n = false := by
  have hsets : ∀ set ∈ [llPoints, otherLowercasePoints, luPoints, otherUppercasePoints, ltPoints,
      lmPoints, loPoints, nlPoints, otherAlphabeticPoints, addedLetterPoints],
      set.apart wideSpacing = true := by
    decide +kernel
  simp only [List.forall_mem_cons, List.not_mem_nil, false_implies, implies_true, and_true] at hsets
  obtain ⟨hll, holower, hlu, houpper, hlt, hlm, hlo, hnl, hother, hadded⟩ := hsets
  have hfalse : ∀ {set : CodePoints}, set.apart wideSpacing = true → set.holds n = false :=
    fun h => CodePoints.holds_eq_false_of_apart h hmem hn
  have hcased : casedPoints.holds n = false := by
    refine CodePoints.unions_eq_false hvalid ?_
    simp only [List.forall_mem_cons, List.not_mem_nil, false_implies, implies_true, and_true]
    exact ⟨CodePoints.union_eq_false hvalid (hfalse hll) (hfalse holower),
      CodePoints.union_eq_false hvalid (hfalse hlu) (hfalse houpper), hfalse hlt⟩
  have halphabetic : alphabeticPoints.holds n = false := by
    refine CodePoints.unions_eq_false hvalid ?_
    simp only [List.forall_mem_cons, List.not_mem_nil, false_implies, implies_true, and_true]
    exact ⟨hcased, hfalse hlm, hfalse hlo, hfalse hnl, hfalse hother⟩
  exact CodePoints.union_eq_false hvalid halphabetic (hfalse hadded)

theorem numerals_apart_wideSpacing {block : Block} (hmem : block ∈ wideSpacing) {n : Nat}
    (hvalid : n.isValidChar) (hn : block.holds n = true) : numerals.holds n = false := by
  have hsets : ∀ set ∈ [ndPoints, nlPoints, noPoints, addedNumeralPoints],
      set.apart wideSpacing = true := by
    decide +kernel
  simp only [List.forall_mem_cons, List.not_mem_nil, false_implies, implies_true, and_true] at hsets
  obtain ⟨hnd, hnl, hno, hadded⟩ := hsets
  have hfalse : ∀ {set : CodePoints}, set.apart wideSpacing = true → set.holds n = false :=
    fun h => CodePoints.holds_eq_false_of_apart h hmem hn
  refine CodePoints.union_eq_false hvalid (CodePoints.unions_eq_false hvalid ?_) (hfalse hadded)
  simp only [List.forall_mem_cons, List.not_mem_nil, false_implies, implies_true, and_true]
  exact ⟨hfalse hnd, hfalse hnl, hfalse hno⟩

/-- No spacing stands in a name. -/
theorem isNamePart_eq_false_of_isSpacing {c : Char} (h : isSpacing c = true) :
    isNamePart c = false := by
  rcases isSpacing_cases h with hascii | ⟨block, hmem, hblock⟩
  · have hall : ∀ n < 0x21, 9 ≤ n ∧ n ≤ 13 ∨ n = 0x20 → isNamePart (Char.ofNat n) = false := by
      decide
    have hc := hall c.toNat (by omega) hascii
    rwa [Char.ofNat_toNat] at hc
  · have hvalid : c.toNat.isValidChar := c.valid
    have hwide : ¬ c.val < 0x80 := by
      have hfirst : ∀ block ∈ wideSpacing, 0x80 ≤ block.first := by decide
      have hle := hfirst block hmem
      simp only [Block.holds, Bool.and_eq_true, decide_eq_true_eq, Char.toNat] at hblock
      rw [UInt32.lt_iff_toNat_lt]
      change ¬ c.val.toNat < 0x80
      omega
    have hne : ∀ d : Char, (∀ block ∈ wideSpacing, block.holds d.toNat = false) →
        (c == d) = false := by
      intro d hd
      rw [beq_eq_false_iff_ne]
      rintro rfl
      rw [hd block hmem] at hblock
      cases hblock
    simp [isNamePart, isAlphanumeric, isAlphabetic, isNumeric, if_neg hwide,
      letters_apart_wideSpacing hmem hvalid hblock, numerals_apart_wideSpacing hmem hvalid hblock,
      hne '$' (by decide), hne '_' (by decide), hne '\u200C' (by decide), hne '\u200D' (by decide)]

theorem isTagNamePart_eq_false_of_isSpacing {c : Char} (h : isSpacing c = true) :
    isTagNamePart c = false := by
  have hpart := isNamePart_eq_false_of_isSpacing h
  have hmarks : isSpacing '-' = false ∧ isSpacing '.' = false ∧ isSpacing ':' = false := by decide
  have hne : ∀ d, isSpacing d = false → c ≠ d := by
    rintro d hd rfl
    rw [h] at hd
    cases hd
  simp [isTagNamePart, hpart, hne _ hmarks.1, hne _ hmarks.2.1, hne _ hmarks.2.2]

theorem isSpacing_of_isBlank {c : Char} (h : Text.isBlank c = true) : isSpacing c = true := by
  simp [isSpacing, h]

/-- White space is all spacing but the byte order mark. -/
theorem isBlank_of_isSpacing {c : Char} (h : isSpacing c = true) (hmark : c ≠ '\uFEFF') :
    isBlank c = true := by
  simp only [isSpacing, isLineTerminator, Bool.or_eq_true, beq_iff_eq] at h
  rcases h with ((((rfl | rfl) | rfl) | rfl) | h) | h
  · decide
  · decide
  · decide
  · decide
  · exact h
  · exact absurd h hmark

end RouteTable.Script
