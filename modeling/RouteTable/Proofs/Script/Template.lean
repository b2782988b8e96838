import RouteTable.Proofs.Script.Plain

/-!
Texts that are put together from names, marks and quoted texts. Written tokens whose reading does
not depend on the tokens before them can be joined, so that a text is read from the readings of its
parts. A name is read up to a character that no name goes on with; brackets, commas and the like are
read for themselves wherever they stand.
-/

namespace RouteTable.Script.Written

/-- Whether no name goes on in a text. -/
def endsName (rest : List Char) : Bool :=
  !rest.head?.any isNamePart && rest.head? != some '\\'

/-- The marks that no longer punctuator starts with. -/
def soleMarks : List Char :=
  ['{', '}', '(', ')', '[', ']', ';', ',', ':']

/-- Written tokens that are each read for themselves, whatever stands before them. -/
def Readable (rest : List Char) (writtens : List Written) : Prop :=
  ∀ before cursor, AllLegible rest before cursor writtens

theorem readable_nil (rest : List Char) : Readable rest [] := by
  intro before cursor
  exact .nil

theorem Readable.cons {rest : List Char} {written : Written} {others : List Written}
    (hothers : Readable rest others)
    (hfirst : ∀ before, written.Legible before (text others ++ rest)) :
    Readable rest (written :: others) := by
  intro before cursor
  apply AllLegible.cons (hfirst before)
  exact hothers _ _

theorem punctuator?_soleMark {c : Char} (hc : c ∈ soleMarks) (rest : List Char) :
    punctuator? (c :: rest) = some [c] := by
  have hlong : longPunctuators.find? (·.isPrefixOf (c :: rest)) = none := by
    have hheads : (soleMarks.all fun d => longPunctuators.all fun text =>
        text.head?.any (· != d)) = true := by
      decide
    rw [List.find?_eq_none]
    intro text htext
    have hhead := List.all_eq_true.1 (List.all_eq_true.1 hheads c hc) text htext
    cases text with
    | nil => cases hhead
    | cons d s =>
      simp only [List.head?_cons, Option.any_some, bne_iff_ne, ne_eq] at hhead
      simp [List.isPrefixOf, hhead]
  have hshort : shortPunctuators.contains c = true := by
    have hall : soleMarks.all (shortPunctuators.contains ·) = true := by decide
    exact List.all_eq_true.1 hall c hc
  simp only [punctuator?, hlong, hshort, if_true]

theorem isNamePart_of_startsPlainName {c : Char} (h : startsPlainName c = true) :
    isNamePart c = true := by
  simp only [startsPlainName, Bool.or_eq_true] at h
  rcases h with (h | h) | h
  · simp [isNamePart, h]
  · simp [isNamePart, h]
  · simp [isNamePart, Text.isAlphanumeric_of_isAlphabetic h]

theorem isNameStart_of_startsPlainName {c : Char} (h : startsPlainName c = true) :
    isNameStart c = true := by
  simp only [startsPlainName, Bool.or_eq_true] at h
  rcases h with (h | h) | h <;> simp [isNameStart, h]

/-- What can stand in a name without quotes is what a name goes on with. -/
theorem isNamePart_of_continuesPlainName {c : Char} (h : continuesPlainName c = true) :
    isNamePart c = true := by
  simp only [continuesPlainName, Bool.or_eq_true] at h
  rcases h with (((h | h) | h) | h) | h <;> simp [isNamePart, h]

/-- A name that is written without quotes is read as a name. -/
theorem exists_of_isPlainName {v : String} (h : isPlainName v = true) :
    ∃ c s, v.toList = c :: s ∧ isNameStart c = true ∧ (c :: s).all isNamePart = true := by
  unfold isPlainName at h
  split at h
  · cases h
  · rename_i c s hv
    simp only [Bool.and_eq_true, List.all_eq_true] at h
    refine ⟨c, s, hv, isNameStart_of_startsPlainName h.1, ?_⟩
    rw [List.all_eq_true]
    intro d hd
    rcases List.mem_cons.1 hd with rfl | hd
    · exact isNamePart_of_startsPlainName h.1
    · exact isNamePart_of_continuesPlainName (h.2 d hd)

section Parts

variable {gap rest : List Char} {others : List Written}

theorem Readable.name {v : String} (hothers : Readable rest others) (hname : isPlainName v = true)
    (hgap : gap.all isSpacing = true) (hends : endsName (text others ++ rest) = true) :
    Readable rest (⟨gap, v.toList, .name, v⟩ :: others) := by
  obtain ⟨c, s, hv, hstart, hparts⟩ := exists_of_isPlainName hname
  have hhead : isNamePart c = true := by
    rw [List.all_cons, Bool.and_eq_true] at hparts
    exact hparts.1
  have hread : GapRead gap (v.toList ++ (text others ++ rest)) := by
    apply gapRead_spaces hgap
    rw [hv, List.cons_append]
    exact settled_of_isNamePart hhead
  have hfirst : v.toList.head?.any isNameStart = true := by
    rw [hv]
    exact hstart
  simp only [endsName, Bool.and_eq_true, Bool.not_eq_true', bne_iff_ne, ne_eq] at hends
  apply hothers.cons
  intro before
  have hlegible := legible_name hread hfirst (hv ▸ hparts) hends.1 hends.2 before
  rwa [String.ofList_toList] at hlegible

theorem Readable.literal {v : String} (hothers : Readable rest others)
    (hgap : GapRead gap ((doubleQuoted v).toList ++ (text others ++ rest)))
    (hv : v.toList.any breaksLiteral = false) :
    Readable rest (Written.literal gap v :: others) := by
  apply hothers.cons
  intro before
  exact legible_literal hgap hv before

/-- A punctuator of any length, in front of a text that makes it no longer. -/
theorem Readable.punctuator {v : String} (hothers : Readable rest others)
    (hgap : gap.all isSpacing = true)
    (hsettled : settled (v.toList ++ (text others ++ rest)) = true)
    (hmark : punctuator? (v.toList ++ (text others ++ rest)) = some v.toList)
    (hplain : v.toList.head?.any (fun c => isNameStart c || c == '#' || c == '"' || c == '\'' ||
      c == '/' || c == '\x60' || c == '<') = false)
    (hnumber : startsNumber (v.toList ++ (text others ++ rest)) = false) :
    Readable rest (⟨gap, v.toList, .punctuator, v⟩ :: others) := by
  apply hothers.cons
  intro before
  have hangle : v.toList.head? ≠ some '<' := by
    intro h
    rw [h] at hplain
    simp at hplain
  have hothersPlain : v.toList.head?.any (fun c => isNameStart c || c == '#' || c == '"' ||
      c == '\'' || c == '/' || c == '\x60') = false := by
    cases hhead : v.toList.head? with
    | none => rfl
    | some c =>
      rw [hhead, Option.any_some, Bool.or_eq_false_iff] at hplain
      exact hplain.1
  have hlegible : Legible before ⟨gap, v.toList, .punctuator, String.ofList v.toList⟩
      (text others ++ rest) :=
    legible_punctuator (gapRead_spaces hgap hsettled) hmark hothersPlain hnumber (Or.inl hangle)
  rwa [String.ofList_toList] at hlegible

/-- A mark that no longer punctuator starts with. -/
theorem Readable.mark {c : Char} {v : String} (hothers : Readable rest others)
    (hv : v.toList = [c]) (hc : c ∈ soleMarks) (hgap : gap.all isSpacing = true) :
    Readable rest (⟨gap, v.toList, .punctuator, v⟩ :: others) := by
  have hall : (soleMarks.all fun d => decide (isSpacing d = false ∧ d ≠ '/' ∧ d ≠ '.' ∧
      d.isDigit = false ∧ (isNameStart d || d == '#' || d == '"' || d == '\'' || d == '/' ||
        d == '\x60' || d == '<') = false)) = true := by
    decide
  obtain ⟨hspacing, hslash, hpoint, hdigit, hplain⟩ :=
    of_decide_eq_true (List.all_eq_true.1 hall c hc)
  apply hothers.punctuator hgap
  · rw [hv, List.singleton_append]
    simp [settled, hspacing, List.isPrefixOf, Ne.symm hslash]
  · rw [hv, List.singleton_append]
    exact punctuator?_soleMark hc _
  · rw [hv]
    exact hplain
  · rw [hv, List.singleton_append]
    simp [startsNumber, hdigit, hpoint]

end Parts

end RouteTable.Script.Written
