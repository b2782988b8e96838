/-!
UTF-8: the bytes of a text, and the text of bytes that are its encoding. Bytes that are no encoding
can be read as well, with a replacement character for each sequence that breaks off.
-/

namespace RouteTable.Text.Utf8

def encode (text : List Char) : List UInt8 :=
  text.flatMap String.utf8EncodeChar

/-- What a first byte says about a character: the bits of the code point it holds, the number of
bytes that follow, and the range that the next of them lies in. -/
structure Leading where
  bits : Nat
  count : Nat
  low : UInt8
  high : UInt8

def leading? (b : UInt8) : Option Leading :=
  if b ≤ 0x7F then some ⟨b.toNat, 0, 0x80, 0xBF⟩
  else if b < 0xC2 then none
  else if b ≤ 0xDF then some ⟨b.toNat - 0xC0, 1, 0x80, 0xBF⟩
  else if b = 0xE0 then some ⟨0, 2, 0xA0, 0xBF⟩
  else if b = 0xED then some ⟨0xD, 2, 0x80, 0x9F⟩
  else if b ≤ 0xEF then some ⟨b.toNat - 0xE0, 2, 0x80, 0xBF⟩
  else if b = 0xF0 then some ⟨0, 3, 0x90, 0xBF⟩
  else if b ≤ 0xF3 then some ⟨b.toNat - 0xF0, 3, 0x80, 0xBF⟩
  else if b = 0xF4 then some ⟨4, 3, 0x80, 0x8F⟩
  else none

/-- Reads the bytes of a character that follow the first: the code point, unless the bytes break
off, and the bytes left. -/
def readFollowing (value : Nat) :
    (count : Nat) → (low high : UInt8) → List UInt8 → Option Nat × List UInt8
  | 0, _, _, bytes => (some value, bytes)
  | _ + 1, _, _, [] => (none, [])
  | count + 1, low, high, b :: bytes =>
    if low ≤ b ∧ b ≤ high then
      readFollowing (64 * value + (b.toNat - 0x80)) count 0x80 0xBF bytes
    else (none, b :: bytes)

theorem length_readFollowing_le (value count : Nat) (low high : UInt8) (bytes : List UInt8) :
    (readFollowing value count low high bytes).2.length ≤ bytes.length := by
  induction count generalizing value low high bytes with
  | zero => exact Nat.le_refl _
  | succ count ih =>
    cases bytes with
    | nil => exact Nat.le_refl _
    | cons b bytes =>
      simp only [readFollowing]
      split
      · exact Nat.le_trans (ih ..) (Nat.le_succ _)
      · exact Nat.le_refl _

/-- Reads one character from its first byte and the bytes after it. -/
def readChar (b : UInt8) (bytes : List UInt8) : Option Char × List UInt8 :=
  match leading? b with
  | some leading =>
    let (value, rest) := readFollowing leading.bits leading.count leading.low leading.high bytes
    (value.map Char.ofNat, rest)
  | none => (none, bytes)

theorem length_readChar_le (b : UInt8) (bytes : List UInt8) :
    (readChar b bytes).2.length ≤ bytes.length := by
  unfold readChar
  split
  · exact length_readFollowing_le ..
  · exact Nat.le_refl _

/-- The characters of bytes, with `none` for each sequence of them that breaks off. -/
def chars : List UInt8 → List (Option Char)
  | [] => []
  | b :: bytes =>
    have := length_readChar_le b bytes
    (readChar b bytes).1 :: chars (readChar b bytes).2
termination_by bytes => bytes.length

def decode? (bytes : List UInt8) : Option (List Char) :=
  (chars bytes).mapM id

def decodeLossy (bytes : List UInt8) : List Char :=
  (chars bytes).map (·.getD '\uFFFD')

end RouteTable.Text.Utf8
