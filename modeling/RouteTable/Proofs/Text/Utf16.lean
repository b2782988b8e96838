import Mathlib.Data.Char

/-!
The code units of a text in UTF-16. A text is found again in its code units, but not all code units
are those of a text: a surrogate must have its partner beside it.
-/

namespace RouteTable.Text

/-- The code units of a code point: itself, or the pair of surrogates for it. -/
def codeUnits (n : Nat) : List Nat :=
  if n < 0x10000 then [n]
  else [0xD800 + (n - 0x10000) / 0x400, 0xDC00 + (n - 0x10000) % 0x400]

def utf16 (text : List Char) : List Nat :=
  text.flatMap fun c => codeUnits c.toNat

/-- Whether a number is half of a pair, which is no character. -/
def IsSurrogate (n : Nat) : Prop :=
  0xD800 ≤ n ∧ n < 0xE000

instance (n : Nat) : Decidable (IsSurrogate n) :=
  inferInstanceAs (Decidable (_ ∧ _))

@[simp] theorem utf16_nil : utf16 [] = [] := rfl

@[simp] theorem utf16_append (text rest : List Char) :
    utf16 (text ++ rest) = utf16 text ++ utf16 rest :=
  List.flatMap_append

theorem toNat_bounds (c : Char) : ¬ IsSurrogate c.toNat ∧ c.toNat < 0x110000 := by
  have hvalid := c.valid
  rw [UInt32.isValidChar, Nat.isValidChar] at hvalid
  have hnat : c.toNat = c.val.toNat := rfl
  rw [hnat, IsSurrogate]
  omega

theorem exists_toNat_eq {n : Nat} (hsurrogate : ¬ IsSurrogate n) (hmax : n < 0x110000) :
    ∃ c : Char, c.toNat = n := by
  have hvalid : n.isValidChar := by
    rw [IsSurrogate] at hsurrogate
    rw [Nat.isValidChar]
    omega
  exact ⟨Char.ofNatAux n hvalid, rfl⟩

/-- The code units of a character are not those that another text starts with. -/
theorem codeUnits_append_inj {c d : Char} {units others : List Nat}
    (h : codeUnits c.toNat ++ units = codeUnits d.toNat ++ others) : c = d ∧ units = others := by
  obtain ⟨hc, hcmax⟩ := toNat_bounds c
  obtain ⟨hd, hdmax⟩ := toNat_bounds d
  rw [IsSurrogate] at hc hd
  rw [← Char.toNat_inj]
  unfold codeUnits at h
  split at h <;> split at h <;>
    simp only [List.cons_append, List.nil_append, List.cons.injEq] at h
  · exact h
  · omega
  · omega
  · exact ⟨by omega, h.2.2⟩

theorem utf16_injective {text other : List Char} (h : utf16 text = utf16 other) : text = other := by
  have hne (c : Char) (s : List Char) : utf16 (c :: s) ≠ [] := by
    rw [utf16, List.flatMap_cons, codeUnits]
    split <;> exact List.cons_ne_nil _ _
  induction text generalizing other with
  | nil =>
    cases other with
    | nil => rfl
    | cons d s => exact absurd h.symm (hne d s)
  | cons c s ih =>
    cases other with
    | nil => exact absurd h (hne c s)
    | cons d t =>
      obtain ⟨rfl, hrest⟩ := codeUnits_append_inj h
      rw [ih hrest]

end RouteTable.Text
