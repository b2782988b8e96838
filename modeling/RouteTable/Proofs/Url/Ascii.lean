import RouteTable.Proofs.Script.Plain
import RouteTable.Proofs.Text.Percent
import RouteTable.Url.Basic

/-!
The URLs of files are written in ASCII: a byte of a name is a printing character or is written as a
percent sign and two digits.
-/

namespace RouteTable

open Text

def IsAscii (s : List Char) : Prop :=
  ∀ c ∈ s, c.toNat < 0x80

theorem isAscii_of_all {s : List Char} (h : (s.all fun c => c.toNat < 0x80) = true) :
    IsAscii s :=
  fun c hc => of_decide_eq_true (List.all_eq_true.1 h c hc)

theorem isAscii_append {s t : List Char} (hs : IsAscii s) (ht : IsAscii t) : IsAscii (s ++ t) := by
  intro c hc
  rcases List.mem_append.1 hc with h | h
  · exact hs c h
  · exact ht c h

namespace Text.Percent

theorem isAscii_encode (escaped : List Char) (bytes : List UInt8) :
    IsAscii (encode escaped bytes) := by
  have hdigit : ∀ n < 16, (upperHexadecimalDigit n).toNat < 0x80 := by decide
  intro c hc
  rcases mem_encode hc with rfl | ⟨n, hn, rfl⟩ | ⟨-, -, hc⟩
  · decide
  · exact hdigit n hn
  · omega

end Text.Percent

namespace Url

theorem isAscii_pathOfNames (names : List FileName) : IsAscii (pathOfNames names) := by
  intro c hc
  unfold pathOfNames at hc
  split at hc
  · rw [List.mem_singleton] at hc
    rw [hc]
    decide
  · obtain ⟨name, -, hname⟩ := List.mem_flatMap.1 hc
    rw [segment, List.mem_cons] at hname
    rcases hname with rfl | hname
    · decide
    · exact Percent.isAscii_encode _ _ c hname

/-- The URL of a file, and the one for loading it later, are written in ASCII. -/
theorem isAscii_text_ofFile? {path : Path} {url : Url} (h : ofFile? path = some url) :
    IsAscii url.text.toList ∧ IsAscii url.deferred.text.toList := by
  unfold ofFile? at h
  split at h
  · cases h
    have hpath : IsAscii (String.ofList (pathOfNames path.names)).toList := by
      rw [String.toList_ofList]
      exact isAscii_pathOfNames _
    have hfront : IsAscii "file://".toList := isAscii_of_all (by decide)
    have hback : IsAscii "?async".toList := isAscii_of_all (by decide)
    have htext := isAscii_append hfront hpath
    constructor
    · simpa [text] using htext
    · simpa [text, deferred, withQuery] using isAscii_append htext hback
  · cases h

end Url

/-- An ASCII text has none of the line ends that break a literal. -/
theorem any_breaksLiteral_of_isAscii {s : List Char} (h : IsAscii s) :
    s.any Script.breaksLiteral = false := by
  rw [List.any_eq_false]
  intro c hc hbreaks
  have hlt := h c hc
  simp only [Script.breaksLiteral, Bool.or_eq_true, beq_iff_eq] at hbreaks
  rcases hbreaks with rfl | rfl
  · exact absurd hlt (by decide)
  · exact absurd hlt (by decide)

end RouteTable
