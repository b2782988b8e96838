import RouteTable.Regex.Parser
import RouteTable.Proofs.Text.CodePoints
import Mathlib.Data.List.Forall2

/-!
Classes of regular expressions that are made of literal characters and ranges of them. A character
that means something in a class stands for itself there if it is escaped; operators between sets,
nested classes and negation begin with such characters, so a class without them is the union of its
items.
-/

namespace RouteTable.Regex

open Text

/-- The text of a character in a class: the character itself, if it means nothing there, or the
character with a backslash before it. -/
inductive WritesLiteral (c : Char) : List Char → Prop where
  | plain (hplain : c ∉ ['\\', '[', ']', '&', '-', '~']) : WritesLiteral c [c]
  | escaped (hmeta : c ∈ metaCharacters) : WritesLiteral c ['\\', c]

/-- The text of an item of a class, by the first and the last character of the item. -/
inductive WritesItem : Char × Char → List Char → Prop where
  | single {c : Char} {text : List Char} (hc : WritesLiteral c text) : WritesItem (c, c) text
  | range {low high : Char} {first last : List Char} (hlow : WritesLiteral low first)
      (hhigh : WritesLiteral high last) (hle : low ≤ high) :
      WritesItem (low, high) (first ++ '-' :: last)

section Texts

variable {c : Char} {range : Char × Char} {text : List Char}

/-- What stands for a character opens and closes no class and begins no operator. -/
theorem WritesLiteral.exists_cons (h : WritesLiteral c text) :
    ∃ d rest, text = d :: rest ∧ d ∉ ['[', ']', '&', '-', '~'] := by
  cases h with
  | plain hplain => exact ⟨c, [], rfl, fun hmem => hplain (List.mem_cons_of_mem _ hmem)⟩
  | escaped => exact ⟨'\\', [c], rfl, by decide⟩

theorem WritesItem.exists_cons (h : WritesItem range text) :
    ∃ d rest, text = d :: rest ∧ d ∉ ['[', ']', '&', '-', '~'] := by
  cases h with
  | single hc => exact hc.exists_cons
  | range hlow _ _ =>
    obtain ⟨d, rest, rfl, hd⟩ := hlow.exists_cons
    exact ⟨d, _, rfl, hd⟩

theorem WritesItem.le (h : WritesItem range text) : range.1 ≤ range.2 := by
  cases h with
  | single => exact Char.le_refl _
  | range _ _ hle => exact hle

end Texts

section Reading

variable {c : Char} {range : Char × Char} {text s : List Char}

@[simp] theorem verbose_initial : Flags.initial.verbose = false :=
  rfl

@[simp] theorem fold_initial (chars : CodePoints) : Flags.initial.fold chars = chars :=
  rfl

@[simp] theorem checked_initial (chars : CodePoints) : Flags.initial.checked chars = .ok chars :=
  rfl

/-- Nothing is passed over in an expression that is not verbose. -/
@[simp] theorem skipBlank_false (s : List Char) : skipBlank false s = s := by
  cases s <;> rfl

theorem isDigit_eq_false_of_mem_metaCharacters (h : c ∈ metaCharacters) : c.isDigit = false := by
  have hall : metaCharacters.all (!·.isDigit) = true := by decide
  simpa using List.all_eq_true.1 hall c h

theorem readClassAtom_literal (h : WritesLiteral c text) (s : List Char) :
    readClassAtom false (text ++ s) = .ok (.literal c, s) := by
  cases h with
  | plain hplain =>
    have hc : c ≠ '\\' := fun hc => hplain (hc ▸ List.mem_cons_self)
    rw [List.singleton_append, readClassAtom]
    exact hc
  | escaped hmeta =>
    have hdigit : ¬ c.isDigit = true := by simp [isDigit_eq_false_of_mem_metaCharacters hmeta]
    rw [List.cons_append, List.singleton_append, readClassAtom]
    unfold readEscape
    dsimp only
    rw [if_neg hdigit, if_pos]
    rw [Bool.or_eq_true, List.contains_iff_mem]
    exact Or.inl hmeta

/-- An item is read as the characters from its first to its last. The dash of another range or of an
operator must not follow it. -/
theorem readClassRange_item (h : WritesItem range text) (hs : s ≠ [])
    (hdash : s.head? ≠ some '-') :
    readClassRange .initial (text ++ s) = .ok (.range range.1.toNat range.2.toNat, s) := by
  rw [readClassRange, verbose_initial]
  cases h with
  | @single c text hc =>
    simp [readClassAtom_literal hc, bind, Except.bind, pure, Except.pure, hs, hdash,
      Flags.escapeClass?, Flags.classCharacter, Flags.initial, CodePoints.single]
  | @range low high first last hlow hhigh hle =>
    obtain ⟨d, rest, rfl, hd⟩ := hhigh.exists_cons
    have hbracket : d ≠ ']' := fun hd' => hd (by simp [hd'])
    have hnext : d ≠ '-' := fun hd' => hd (by simp [hd'])
    have hhighest := readClassAtom_literal hhigh s
    rw [List.cons_append] at hhighest
    rw [List.append_assoc, List.cons_append, readClassAtom_literal hlow]
    simp [bind, Except.bind, pure, Except.pure, hhighest, afterNext, rangeMark, hbracket, hnext,
      Flags.classCharacter, Flags.initial, hle]

end Reading

section Items

variable {ranges : List (Char × Char)} {texts : List (List Char)}

def inRanges (ranges : List (Char × Char)) (c : Char) : Bool :=
  ranges.any fun range => range.1 ≤ c && c ≤ range.2

theorem readClassItems_item {range : Char × Char} {text s : List Char} (h : WritesItem range text)
    (hs : s ≠ []) (hdash : s.head? ≠ some '-') (steps : Nat) (union : ClassUnion) :
    readClassItems (steps + 1) .initial none union (text ++ s) =
      readClassItems steps .initial none
        (union.add ⟨.range range.1.toNat range.2.toNat, 0⟩) s := by
  obtain ⟨d, rest, htext, hd⟩ := h.exists_cons
  have hrange := readClassRange_item h hs hdash
  simp only [List.mem_cons, List.not_mem_nil, or_false, not_or] at hd
  rw [htext, List.cons_append] at hrange ⊢
  rw [readClassItems, verbose_initial, skipBlank_false]
  simp only [bind, Except.bind]
  split <;> simp_all

/-- What comes behind an item of a class without operators begins neither a range nor an operator.
-/
theorem behind_items (h : List.Forall₂ WritesItem ranges texts) (rest : List Char) :
    texts.flatten ++ ']' :: rest ≠ [] ∧ (texts.flatten ++ ']' :: rest).head? ≠ some '-' := by
  cases h with
  | nil => simp
  | cons hitem _ =>
    obtain ⟨d, others, rfl, hd⟩ := hitem.exists_cons
    have hd' : d ≠ '-' := fun hdash => hd (by simp [hdash])
    simp [hd']

theorem length_le_length_flatten (h : List.Forall₂ WritesItem ranges texts) :
    texts.length ≤ texts.flatten.length := by
  induction h with
  | nil => exact Nat.le_refl 0
  | cons hitem _ ih =>
    obtain ⟨d, rest, rfl, -⟩ := hitem.exists_cons
    simp only [List.length_cons, List.flatten_cons, List.cons_append, List.length_append]
    omega

theorem ClassUnion.chars_add (union : ClassUnion) (item : Nested CodePoints) :
    (union.add item).chars = union.chars.union item.value :=
  rfl

theorem toNat_le_iff {c d : Char} : c.toNat ≤ d.toNat ↔ c ≤ d :=
  Iff.rfl

/-- The items of a class are read up to and over the bracket that closes it, as their union. -/
theorem readClassItems_items (h : List.Forall₂ WritesItem ranges texts) {steps : Nat}
    (hsteps : texts.length < steps) (union : ClassUnion) (hunion : union.chars.IsOrdered)
    (rest : List Char) :
    ∃ chars, readClassItems steps .initial none union (texts.flatten ++ ']' :: rest) =
        .ok (chars, rest) ∧ chars.value.IsOrdered ∧
      ∀ c : Char, chars.value.holds c.toNat = true ↔
        union.chars.holds c.toNat = true ∨ inRanges ranges c = true := by
  induction h generalizing steps union with
  | nil =>
    obtain ⟨steps, rfl⟩ := Nat.exists_eq_succ_of_ne_zero (Nat.ne_of_gt hsteps)
    refine ⟨union.set, ?_, hunion, fun c => by simp [inRanges, ClassUnion.set]⟩
    rw [readClassItems]
    rfl
  | @cons range text ranges texts hitem hitems ih =>
    obtain ⟨steps, rfl⟩ := Nat.exists_eq_succ_of_ne_zero (Nat.ne_of_gt (Nat.zero_lt_of_lt hsteps))
    obtain ⟨hbehind, hdash⟩ := behind_items hitems rest
    have hrange : (CodePoints.range range.1.toNat range.2.toNat).IsOrdered :=
      CodePoints.isOrdered_range (toNat_le_iff.2 hitem.le)
    obtain ⟨chars, hread, hordered, hholds⟩ := ih (Nat.lt_of_succ_lt_succ hsteps)
      (union.add ⟨.range range.1.toNat range.2.toNat, 0⟩)
      (CodePoints.isOrdered_union hunion hrange)
    refine ⟨chars, ?_, hordered, fun c => ?_⟩
    · rw [List.flatten_cons, List.append_assoc, Nat.succ_eq_add_one,
        readClassItems_item hitem hbehind hdash, hread]
    · have hadded := CodePoints.holds_union_iff hunion hrange (n := c.toNat) c.valid
      rw [CodePoints.holds_range_iff, toNat_le_iff, toNat_le_iff] at hadded
      rw [hholds, ClassUnion.chars_add, hadded, or_assoc]
      simp [inRanges]

theorem readDashes_of_ne {d : Char} (h : d ≠ '-') (verbose : Bool) (steps : Nat)
    (union : ClassUnion) (s : List Char) :
    readDashes verbose steps union (d :: s) = (union, d :: s) := by
  cases steps with
  | zero => rfl
  | succ steps => simp [readDashes, h]

end Items

/-- A class of literal characters and ranges of them holds the characters of its items or, with a
caret in front, all others. -/
theorem readClass_items {ranges : List (Char × Char)} {texts : List (List Char)}
    (h : List.Forall₂ WritesItem ranges texts) (hne : texts ≠ []) (negated : Bool)
    (hcaret : negated = false → texts.flatten.head? ≠ some '^') {steps : Nat}
    (hsteps : texts.flatten.length + 1 < steps) (rest : List Char) :
    ∃ chars, readClass steps .initial
        ((if negated then ['^'] else []) ++ (texts.flatten ++ ']' :: rest)) = .ok (chars, rest) ∧
      ∀ c : Char, chars.value.holds c.toNat = (negated != inRanges ranges c) := by
  obtain ⟨steps, rfl⟩ := Nat.exists_eq_succ_of_ne_zero (Nat.ne_of_gt (Nat.zero_lt_of_lt hsteps))
  have hcount := length_le_length_flatten h
  obtain ⟨chars, hread, hordered, hholds⟩ :=
    readClassItems_items h (by omega : texts.length < steps) .empty CodePoints.isOrdered_empty rest
  obtain ⟨d, others, hstart, hmark, hd⟩ : ∃ d others, texts.flatten ++ ']' :: rest =
      d :: others ∧ texts.flatten.head? = some d ∧ d ∉ ['[', ']', '&', '-', '~'] := by
    cases h with
    | nil => exact absurd rfl hne
    | cons hitem _ =>
      obtain ⟨d, others, rfl, hd⟩ := hitem.exists_cons
      exact ⟨d, _, rfl, rfl, hd⟩
  have hdash : d ≠ '-' := fun h => hd (by simp [h])
  have hbracket : d ≠ ']' := fun h => hd (by simp [h])
  rw [hstart] at hread ⊢
  rw [hmark] at hcaret
  refine ⟨⟨negatedIf negated chars.value, chars.depth + 1⟩, ?_, fun c => ?_⟩
  · cases negated with
    | false =>
      have hmarkless : (d == '^') = false := beq_eq_false_iff_ne.2 fun h => hcaret rfl (h ▸ rfl)
      simp [readClass, readDashes_of_ne, hdash, hbracket, hmarkless, hread, bind, Except.bind,
        pure, Except.pure]
    | true =>
      simp [readClass, readDashes_of_ne, hdash, hbracket, hread, afterNext, bind, Except.bind,
        pure, Except.pure]
  · have hnone : ClassUnion.empty.chars.holds c.toNat = false := rfl
    have hc := hholds c
    simp only [hnone, Bool.false_eq_true, false_or] at hc
    rw [Bool.eq_iff_iff]
    cases negated with
    | false => simpa [negatedIf] using hc
    | true =>
      have hcomplement := CodePoints.holds_complement_iff hordered (n := c.toNat) c.valid
      simpa [negatedIf, hcomplement] using hc.not

end RouteTable.Regex
