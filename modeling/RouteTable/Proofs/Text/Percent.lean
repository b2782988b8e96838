import RouteTable.Text.Percent

/-!
Percent encoding can be undone where the percent sign itself is escaped. It leaves none of the
characters that are escaped, but for the percent sign and the digits behind it.
-/

namespace RouteTable.Text.Percent

variable {escaped : List Char}

theorem encode_cons (b : UInt8) (bytes : List UInt8) :
    encode escaped (b :: bytes) = encode escaped [b] ++ encode escaped bytes := by
  simp [encode]

/-- A byte is written as the character that it encodes, or with a percent sign. -/
theorem encode_singleton (escaped : List Char) (b : UInt8) :
    (∃ c, encode escaped [b] = [c] ∧ Utf8.encode [c] = [b] ∧ c ∉ escaped ∧
        0x20 ≤ c.toNat ∧ c.toNat < 0x7F) ∨
      encode escaped [b] = encodeByte b := by
  simp only [encode, List.flatMap_cons, List.flatMap_nil, List.append_nil]
  split
  · rename_i hkept
    simp only [Bool.and_eq_true, Bool.not_eq_true', isPrinting, decide_eq_true_eq,
      UInt8.le_iff_toNat_le, UInt8.lt_iff_toNat_lt] at hkept
    obtain ⟨⟨hlow, hhigh⟩, hescaped⟩ := hkept
    have hcode : ∀ n < 0x7F, (Char.ofNat n).toNat = n ∧
        Utf8.encode [Char.ofNat n] = [UInt8.ofNat n] := by decide
    obtain ⟨hnumber, hbytes⟩ := hcode _ hhigh
    refine .inl ⟨_, rfl, ?_, by simpa using hescaped, ?_⟩
    · rw [hbytes, UInt8.ofNat_toNat]
    · rw [hnumber]
      exact ⟨hlow, hhigh⟩
  · exact .inr rfl

theorem mem_encodeByte {b : UInt8} {c : Char} (h : c ∈ encodeByte b) :
    c = '%' ∨ ∃ n < 16, c = upperHexadecimalDigit n := by
  have hb : b.toNat < 256 := b.toNat_lt
  simp only [encodeByte, List.mem_cons, List.not_mem_nil, or_false] at h
  rcases h with rfl | rfl | rfl
  · exact .inl rfl
  · exact .inr ⟨_, by omega, rfl⟩
  · exact .inr ⟨_, by omega, rfl⟩

/-- A character of an encoding is a percent sign, a digit behind one, or a printing character that
is not escaped. -/
theorem mem_encode {bytes : List UInt8} {c : Char} (h : c ∈ encode escaped bytes) :
    c = '%' ∨ (∃ n < 16, c = upperHexadecimalDigit n) ∨
      c ∉ escaped ∧ 0x20 ≤ c.toNat ∧ c.toNat < 0x7F := by
  induction bytes with
  | nil => cases h
  | cons b bytes ih =>
    rw [encode_cons, List.mem_append] at h
    rcases h with h | h
    · rcases encode_singleton escaped b with ⟨c', hwritten, -, hkept⟩ | hwritten
      · rw [hwritten, List.mem_singleton] at h
        rw [h]
        exact .inr (.inr hkept)
      · rw [hwritten] at h
        rcases mem_encodeByte h with hpercent | hdigit
        · exact .inl hpercent
        · exact .inr (.inl hdigit)
    · exact ih h

theorem decode_cons {c : Char} (hc : c ≠ '%') (rest : List Char) :
    decode (c :: rest) = Utf8.encode [c] ++ decode rest := by
  rw [decode.eq_3]
  intro a b rest' hpercent _
  exact hc hpercent

theorem decode_encodeByte_append (b : UInt8) (rest : List Char) :
    decode (encodeByte b ++ rest) = b :: decode rest := by
  have hdigit : ∀ n < 16, hexadecimalDigit? (upperHexadecimalDigit n) = some n := by decide
  have hb : b.toNat < 256 := b.toNat_lt
  simp only [encodeByte, List.cons_append, List.nil_append, decode,
    hdigit (b.toNat / 16) (by omega), hdigit (b.toNat % 16) (by omega)]
  rw [Nat.div_add_mod, UInt8.ofNat_toNat]

/-- The bytes are read back, whatever stands behind their encoding. -/
theorem decode_encode_append (hpercent : '%' ∈ escaped) (bytes : List UInt8) (rest : List Char) :
    decode (encode escaped bytes ++ rest) = bytes ++ decode rest := by
  induction bytes with
  | nil => rfl
  | cons b bytes ih =>
    rw [encode_cons, List.append_assoc, List.cons_append, ← ih]
    rcases encode_singleton escaped b with ⟨c, hwritten, hbytes, hescaped, -⟩ | hwritten
    · have hc : c ≠ '%' := fun h => hescaped (h ▸ hpercent)
      rw [hwritten, List.singleton_append, decode_cons hc, hbytes]
      rfl
    · rw [hwritten, decode_encodeByte_append]

end RouteTable.Text.Percent
