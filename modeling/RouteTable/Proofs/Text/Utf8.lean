import RouteTable.Text.Utf8

/-!
What is decoded is the text whose encoding the bytes are.
-/

namespace RouteTable.Text.Utf8

/-- What a first byte says, in numbers. -/
theorem bounds_of_leading? {b : UInt8} {leading : Leading} (h : leading? b = some leading) :
    (leading.count = 0 ∧ b.toNat = leading.bits ∧ leading.bits ≤ 0x7F) ∨
    (leading.count = 1 ∧ b.toNat = leading.bits + 0xC0 ∧ 2 ≤ leading.bits ∧ leading.bits ≤ 0x1F ∧
      leading.low.toNat = 0x80 ∧ leading.high.toNat = 0xBF) ∨
    (leading.count = 2 ∧ b.toNat = leading.bits + 0xE0 ∧ leading.bits ≤ 0xF ∧
      leading.low.toNat = (if leading.bits = 0 then 0xA0 else 0x80) ∧
      leading.high.toNat = (if leading.bits = 0xD then 0x9F else 0xBF)) ∨
    (leading.count = 3 ∧ b.toNat = leading.bits + 0xF0 ∧ leading.bits ≤ 4 ∧
      leading.low.toNat = (if leading.bits = 0 then 0x90 else 0x80) ∧
      leading.high.toNat = (if leading.bits = 4 then 0x8F else 0xBF)) := by
  simp only [leading?, UInt8.le_iff_toNat_le, UInt8.lt_iff_toNat_lt, ← UInt8.toNat_inj,
    UInt8.reduceToNat] at h
  split at h
  · obtain rfl := Option.some.inj h
    exact .inl ⟨rfl, rfl, ‹_›⟩
  split at h
  · cases h
  split at h
  · obtain rfl := Option.some.inj h
    exact .inr (.inl ⟨rfl, by grind, by grind, by grind, rfl, rfl⟩)
  split at h
  · obtain rfl := Option.some.inj h
    exact .inr (.inr (.inl ⟨rfl, ‹_›, by decide, rfl, rfl⟩))
  split at h
  · obtain rfl := Option.some.inj h
    exact .inr (.inr (.inl ⟨rfl, ‹_›, by decide, rfl, rfl⟩))
  split at h
  · obtain rfl := Option.some.inj h
    exact .inr (.inr (.inl ⟨rfl, by grind, by grind, by grind, by grind⟩))
  split at h
  · obtain rfl := Option.some.inj h
    exact .inr (.inr (.inr ⟨rfl, ‹_›, by decide, rfl, rfl⟩))
  split at h
  · obtain rfl := Option.some.inj h
    exact .inr (.inr (.inr ⟨rfl, by grind, by grind, by grind, by grind⟩))
  split at h
  · obtain rfl := Option.some.inj h
    exact .inr (.inr (.inr ⟨rfl, ‹_›, by decide, rfl, rfl⟩))
  · cases h

/-- A character that is read from more than its first byte has the next byte in its range. -/
theorem readFollowing_succ {value count : Nat} {low high : UInt8} {bytes rest : List UInt8}
    {result : Nat} (h : readFollowing value (count + 1) low high bytes = (some result, rest)) :
    ∃ b more, bytes = b :: more ∧ low.toNat ≤ b.toNat ∧ b.toNat ≤ high.toNat ∧
      readFollowing (64 * value + (b.toNat - 0x80)) count 0x80 0xBF more = (some result, rest) := by
  cases bytes with
  | nil => cases h
  | cons b more =>
    rw [readFollowing] at h
    split at h
    · rename_i hrange
      exact ⟨b, more, rfl, UInt8.le_iff_toNat_le.1 hrange.1, UInt8.le_iff_toNat_le.1 hrange.2, h⟩
    · cases h

theorem toNat_val_ofNat {n : Nat} (h : n.isValidChar) : (Char.ofNat n).val.toNat = n := by
  rw [Char.ofNat, dif_pos h]
  rfl

theorem ofNat_eq {n : Nat} {b : UInt8} (h : n = b.toNat) : UInt8.ofNat n = b := by
  rw [h, UInt8.ofNat_toNat]

theorem readFollowing_zero {value result : Nat} {low high : UInt8} {bytes rest : List UInt8}
    (h : readFollowing value 0 low high bytes = (some result, rest)) :
    result = value ∧ rest = bytes := by
  cases h
  exact ⟨rfl, rfl⟩

section Characters

variable {n : Nat} (h : n.isValidChar)
include h

theorem encodeChar_one (b : UInt8) (hb : b.toNat = n) (hn : n ≤ 0x7F) :
    String.utf8EncodeChar (Char.ofNat n) = [b] := by
  simp only [String.utf8EncodeChar, toNat_val_ofNat h]
  rw [if_pos hn, ofNat_eq hb.symm]

theorem encodeChar_two (b b₁ : UInt8) (hn : 0x7F < n) (hb : b.toNat = n / 64 + 0xC0)
    (hb₁ : b₁.toNat = n % 64 + 0x80) (hlead : n / 64 ≤ 0x1F) :
    String.utf8EncodeChar (Char.ofNat n) = [b, b₁] := by
  simp only [String.utf8EncodeChar, toNat_val_ofNat h]
  rw [if_neg (by omega), if_pos (by omega), ofNat_eq (b := b) (by omega), ofNat_eq hb₁.symm]

theorem encodeChar_three (b b₁ b₂ : UInt8) (hn : 0x7FF < n) (hb : b.toNat = n / 4096 + 0xE0)
    (hb₁ : b₁.toNat = n / 64 % 64 + 0x80) (hb₂ : b₂.toNat = n % 64 + 0x80)
    (hlead : n / 4096 ≤ 0xF) :
    String.utf8EncodeChar (Char.ofNat n) = [b, b₁, b₂] := by
  simp only [String.utf8EncodeChar, toNat_val_ofNat h]
  rw [if_neg (by omega), if_neg (by omega), if_pos (by omega), ofNat_eq (b := b) (by omega),
    ofNat_eq hb₁.symm, ofNat_eq hb₂.symm]

theorem encodeChar_four (b b₁ b₂ b₃ : UInt8) (hn : 0xFFFF < n) (hb : b.toNat = n / 262144 + 0xF0)
    (hb₁ : b₁.toNat = n / 4096 % 64 + 0x80) (hb₂ : b₂.toNat = n / 64 % 64 + 0x80)
    (hb₃ : b₃.toNat = n % 64 + 0x80) (hlead : n / 262144 ≤ 7) :
    String.utf8EncodeChar (Char.ofNat n) = [b, b₁, b₂, b₃] := by
  simp only [String.utf8EncodeChar, toNat_val_ofNat h]
  rw [if_neg (by omega), if_neg (by omega), if_neg (by omega), ofNat_eq (b := b) (by omega),
    ofNat_eq hb₁.symm, ofNat_eq hb₂.symm, ofNat_eq hb₃.symm]

end Characters

/-- A character that is read has the bytes as its encoding that are read. -/
theorem encode_of_readFollowing {b : UInt8} {bytes rest : List UInt8} {leading : Leading}
    {value : Nat} (hleading : leading? b = some leading)
    (h : readFollowing leading.bits leading.count leading.low leading.high bytes =
      (some value, rest)) : String.utf8EncodeChar (Char.ofNat value) ++ rest = b :: bytes := by
  -- One case for each number of bytes. The range of the second byte keeps out surrogates and
  -- encodings that are longer than need be.
  obtain ⟨bits, count, low, high⟩ := leading
  rcases bounds_of_leading? hleading with
    ⟨rfl, hb, hbits⟩ | ⟨rfl, hb, hleast, hbits, hlow, hhigh⟩ | ⟨rfl, hb, hbits, hlow, hhigh⟩ |
      ⟨rfl, hb, hbits, hlow, hhigh⟩
  · obtain ⟨hvalue, hrest⟩ := readFollowing_zero h
    dsimp only at hb hbits hvalue
    have hvalid : value.isValidChar := .inl (by omega)
    rw [encodeChar_one hvalid b (by omega) (by omega), hrest]
    rfl
  · obtain ⟨b₁, bytes, rfl, hlow₁, hhigh₁, h⟩ := readFollowing_succ h
    obtain ⟨hvalue, hrest⟩ := readFollowing_zero h
    dsimp only at hb hleast hbits hlow hhigh hlow₁ hhigh₁ hvalue
    have hvalid : value.isValidChar := .inl (by omega)
    rw [encodeChar_two hvalid b b₁ (by omega) (by omega) (by omega) (by omega),
      hrest]
    rfl
  · obtain ⟨b₁, bytes, rfl, hlow₁, hhigh₁, h⟩ := readFollowing_succ h
    obtain ⟨b₂, bytes, rfl, hlow₂, hhigh₂, h⟩ := readFollowing_succ h
    obtain ⟨hvalue, hrest⟩ := readFollowing_zero h
    simp only [UInt8.reduceToNat] at hlow₂ hhigh₂
    dsimp only at hb hbits hlow hhigh hlow₁ hhigh₁ hvalue
    have hb₁ : 0x80 ≤ b₁.toNat ∧ b₁.toNat ≤ 0xBF := by
      split at hlow <;> split at hhigh <;> omega
    have hvalid : value.isValidChar := by
      rw [Nat.isValidChar]
      split at hlow <;> split at hhigh <;> omega
    have hleast : 0x7FF < value := by
      split at hlow <;> omega
    rw [encodeChar_three hvalid b b₁ b₂ hleast (by omega) (by omega)
      (by omega) (by omega), hrest]
    rfl
  · obtain ⟨b₁, bytes, rfl, hlow₁, hhigh₁, h⟩ := readFollowing_succ h
    obtain ⟨b₂, bytes, rfl, hlow₂, hhigh₂, h⟩ := readFollowing_succ h
    obtain ⟨b₃, bytes, rfl, hlow₃, hhigh₃, h⟩ := readFollowing_succ h
    obtain ⟨hvalue, hrest⟩ := readFollowing_zero h
    simp only [UInt8.reduceToNat] at hlow₂ hhigh₂ hlow₃ hhigh₃
    dsimp only at hb hbits hlow hhigh hlow₁ hhigh₁ hvalue
    have hb₁ : 0x80 ≤ b₁.toNat ∧ b₁.toNat ≤ 0xBF := by
      split at hlow <;> split at hhigh <;> omega
    have hvalid : value.isValidChar := by
      rw [Nat.isValidChar]
      split at hlow <;> split at hhigh <;> omega
    have hleast : 0xFFFF < value := by
      split at hlow <;> omega
    rw [encodeChar_four hvalid b b₁ b₂ b₃ hleast (by omega)
      (by omega) (by omega) (by omega) (by omega), hrest]
    rfl

theorem encode_of_readChar {b : UInt8} {bytes rest : List UInt8} {c : Char}
    (h : readChar b bytes = (some c, rest)) : String.utf8EncodeChar c ++ rest = b :: bytes := by
  rw [readChar] at h
  split at h
  · rename_i leading hleading
    rcases hfollowing : readFollowing leading.bits leading.count leading.low leading.high bytes with
      ⟨_ | value, rest'⟩
    · rw [hfollowing] at h
      cases h
    · rw [hfollowing] at h
      cases h
      exact encode_of_readFollowing hleading hfollowing
  · cases h

/-- A text that is decoded has the bytes as its encoding. -/
theorem encode_of_decode? {bytes : List UInt8} {text : List Char} (h : decode? bytes = some text) :
    encode text = bytes := by
  rw [decode?] at h
  fun_induction chars bytes generalizing text with
  | case1 =>
    cases h
    rfl
  | case2 b bytes _ ih =>
    rcases hread : readChar b bytes with ⟨_ | c, rest⟩
    · rw [hread] at h
      cases h
    · rw [hread] at h ih
      rw [List.mapM_cons] at h
      obtain ⟨_, hc, htext⟩ := Option.bind_eq_some_iff.1 h
      obtain ⟨more, hmore, htext⟩ := Option.bind_eq_some_iff.1 htext
      cases hc
      cases htext
      rw [encode, List.flatMap_cons, ← encode_of_readChar hread]
      exact congrArg _ (ih hmore)

/-- Bytes below 0x80 are a text, with a character for each of them. -/
theorem decode?_of_ascii {bytes : List UInt8} (h : bytes.all (· ≤ 0x7F)) :
    decode? bytes = some (bytes.map fun b => Char.ofNat b.toNat) := by
  have hchars : chars bytes = bytes.map fun b => some (Char.ofNat b.toNat) := by
    induction bytes with
    | nil => rw [chars, List.map_nil]
    | cons b bytes ih =>
      rw [List.all_cons, Bool.and_eq_true, decide_eq_true_iff] at h
      have hread : readChar b bytes = (some (Char.ofNat b.toNat), bytes) := by
        rw [readChar, leading?, if_pos h.1]
        rfl
      rw [chars, hread, ih h.2, List.map_cons]
  rw [decode?, hchars, List.mapM_map]
  exact List.mapM_pure (m := Option)

/-- A byte that starts no character makes bytes no text. -/
theorem decode?_of_leading?_eq_none {b : UInt8} (h : leading? b = none) (bytes : List UInt8) :
    decode? (b :: bytes) = none := by
  have hread : readChar b bytes = (none, bytes) := by
    rw [readChar, h]
  rw [decode?, chars, hread]
  rfl

/-- A text that is decoded is that of the bytes read as any bytes are. -/
theorem decodeLossy_of_decode? {bytes : List UInt8} {text : List Char}
    (h : decode? bytes = some text) : decodeLossy bytes = text := by
  rw [decode?] at h
  rw [decodeLossy]
  generalize chars bytes = found at h
  induction found generalizing text with
  | nil =>
    cases h
    rfl
  | cons first rest ih =>
    rw [List.mapM_cons] at h
    obtain ⟨c, hfirst, htext⟩ := Option.bind_eq_some_iff.1 h
    obtain ⟨more, hmore, htext⟩ := Option.bind_eq_some_iff.1 htext
    obtain rfl : first = some c := hfirst
    cases htext
    rw [List.map_cons, ih hmore, Option.getD_some]

end RouteTable.Text.Utf8
