import Mathlib.Data.Nat.Digits.Defs
import RouteTable.Text.Hexadecimal

/-!
What a hexadecimal numeral spells: the number with its digits, the most significant first. The
reader of numerals takes a plus sign in front of them.
-/

namespace RouteTable.Text

/-- Whether a text is hexadecimal digits, and at least one. -/
def IsNumeral (digits : List Char) : Prop :=
  digits ≠ [] ∧ ∀ c ∈ digits, (hexadecimalDigit? c).isSome

instance (digits : List Char) : Decidable (IsNumeral digits) :=
  decidable_of_iff (digits ≠ [] ∧ digits.all (fun c => (hexadecimalDigit? c).isSome) = true)
    (and_congr_right fun _ => List.all_eq_true)

def hexadecimalValue (digits : List Char) : Nat :=
  Nat.ofDigits 16 (digits.filterMap hexadecimalDigit?).reverse

/-- A numeral with the sign that may stand in front of it. -/
def withSign (signed : Bool) (digits : List Char) : List Char :=
  if signed then '+' :: digits else digits

theorem hexadecimalDigit?_lt {c : Char} {d : Nat} (h : hexadecimalDigit? c = some d) : d < 16 := by
  simp only [hexadecimalDigit?, Char.le_def, UInt32.le_iff_toNat_le] at h
  have hnat : c.toNat = c.val.toNat := rfl
  have hmarks : '0'.val.toNat = 48 ∧ '9'.val.toNat = 57 ∧ 'a'.val.toNat = 97 ∧
      'f'.val.toNat = 102 ∧ 'A'.val.toNat = 65 ∧ 'F'.val.toNat = 70 := by decide
  have hbases : '0'.toNat = 48 ∧ 'a'.toNat = 97 ∧ 'A'.toNat = 65 := by decide
  split at h
  · cases h
    omega
  · split at h
    · cases h
      omega
    · split at h
      · cases h
        omega
      · cases h

theorem length_filterMap_of_isSome {digits : List Char}
    (h : ∀ c ∈ digits, (hexadecimalDigit? c).isSome) :
    (digits.filterMap hexadecimalDigit?).length = digits.length := by
  rw [List.length_filterMap_eq_countP, List.countP_eq_length]
  exact h

theorem hexadecimalValue_cons {c : Char} {digits : List Char} {d : Nat}
    (hc : hexadecimalDigit? c = some d) (h : ∀ c ∈ digits, (hexadecimalDigit? c).isSome) :
    hexadecimalValue (c :: digits) = hexadecimalValue digits + 16 ^ digits.length * d := by
  rw [hexadecimalValue, List.filterMap_cons_some hc, List.reverse_cons, Nat.ofDigits_append,
    List.length_reverse, length_filterMap_of_isSome h, Nat.ofDigits_singleton]
  rfl

theorem hexadecimalValue_lt (digits : List Char) :
    hexadecimalValue digits < 16 ^ digits.length := by
  have hdigit : ∀ d ∈ (digits.filterMap hexadecimalDigit?).reverse, d < 16 := by
    intro d hd
    obtain ⟨c, -, hc⟩ := List.mem_filterMap.1 (List.mem_reverse.1 hd)
    exact hexadecimalDigit?_lt hc
  refine Nat.lt_of_lt_of_le (Nat.ofDigits_lt_base_pow_length (by decide) hdigit) ?_
  rw [List.length_reverse]
  exact Nat.pow_le_pow_right (by decide) (List.length_filterMap_le _ _)

/-- The digits behind some that gave `value` are worth less by as many places as they have. -/
theorem hexadecimalFrom?_eq_some_iff {value n : Nat} {digits : List Char} :
    hexadecimalFrom? value digits = some n ↔
      (∀ c ∈ digits, (hexadecimalDigit? c).isSome) ∧
        16 ^ digits.length * value + hexadecimalValue digits = n := by
  induction digits generalizing value with
  | nil => simp [hexadecimalFrom?, hexadecimalValue]
  | cons c digits ih =>
    rw [hexadecimalFrom?, List.forall_mem_cons]
    cases hc : hexadecimalDigit? c with
    | none => simp
    | some d =>
      rw [Option.bind_some, ih, Option.isSome_some]
      simp only [true_and]
      refine and_congr_right fun h => ?_
      rw [hexadecimalValue_cons hc h, List.length_cons, Nat.pow_succ]
      grind

theorem hexadecimalDigit?_plus : hexadecimalDigit? '+' = none := by
  decide

/-- Read are the numerals, with or without a sign. -/
theorem hexadecimal?_eq_some_iff {text : List Char} {n : Nat} :
    hexadecimal? text = some n ↔ ∃ signed digits, text = withSign signed digits ∧
      IsNumeral digits ∧ hexadecimalValue digits = n := by
  have hread (digits : List Char) : (if digits.isEmpty then none else hexadecimalFrom? 0 digits) =
      some n ↔ IsNumeral digits ∧ hexadecimalValue digits = n := by
    rw [IsNumeral]
    rcases digits with _ | ⟨c, digits⟩
    · simp
    · rw [List.isEmpty_cons, if_neg Bool.false_ne_true, hexadecimalFrom?_eq_some_iff]
      simp
  unfold hexadecimal?
  dsimp only
  rw [hread]
  split
  · rename_i hsign
    obtain ⟨digits, rfl⟩ := List.head?_eq_some_iff.1 hsign
    constructor
    · rintro ⟨hdigits, hvalue⟩
      exact ⟨true, digits, rfl, hdigits, hvalue⟩
    · rintro ⟨signed, others, htext, hdigits, hvalue⟩
      cases signed with
      | true =>
        cases htext
        exact ⟨hdigits, hvalue⟩
      | false =>
        obtain rfl : '+' :: digits = others := htext
        have hplus := hdigits.2 '+' List.mem_cons_self
        rw [hexadecimalDigit?_plus] at hplus
        cases hplus
  · rename_i hsign
    constructor
    · rintro ⟨hdigits, hvalue⟩
      exact ⟨false, text, rfl, hdigits, hvalue⟩
    · rintro ⟨signed, digits, rfl, hdigits, hvalue⟩
      cases signed with
      | true => exact absurd rfl hsign
      | false => exact ⟨hdigits, hvalue⟩

end RouteTable.Text
