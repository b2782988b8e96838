import RouteTable.Proofs.Glob.Alternatives
import RouteTable.Proofs.Traversal

/-!
The expansion of groups as it goes over a glob by places. It finds the closing bracket of a class
and the closing brace of a group, counting braces, takes the alternatives out of the glob by slices,
and starts again with each glob that has one alternative in place of the group. Each of its places
is one in the glob, its count of braces never runs below zero, and it gives what going over the glob
once gives.
-/

namespace RouteTable.Glob

/-- Why an expansion has no result. Only the first is a mistake in the glob, the others are faults
of the expansion. -/
inductive Stop where
  | unclosed
  | underflow
  | outOfRange
  deriving DecidableEq, Repr

def slice (glob : List Char) (start stop : Nat) : Except Stop (List Char) :=
  if start ≤ stop ∧ stop ≤ glob.length then .ok ((glob.take stop).drop start)
  else .error .outOfRange

/-- The place of the bracket that closes a class whose members start at `first`, from one of them
on. -/
def closingFrom (glob : List Char) (first place : Nat) : Option Nat :=
  if h : place < glob.length then
    match glob[place] with
    | '\\' => closingFrom glob first (place + 2)
    | ']' => if first < place then some place else closingFrom glob first (place + 1)
    | _ => closingFrom glob first (place + 1)
  else none
termination_by glob.length - place

def classEnd (glob : List Char) (opened : Nat) : Option Nat :=
  if glob[opened + 1]? = some '!' ∨ glob[opened + 1]? = some '^' then
    closingFrom glob (opened + 2) (opened + 2)
  else closingFrom glob (opened + 1) (opened + 1)

section Places

variable {glob : List Char} {place : Nat} {c : Char} {s : List Char}

/-- What stands at a place where the rest of the glob is known. -/
theorem place_of_drop (h : glob.drop place = c :: s) :
    ∃ hlt : place < glob.length, glob[place] = c ∧ glob.drop (place + 1) = s := by
  have hlt : place < glob.length := by
    apply Nat.lt_of_not_le
    intro hle
    rw [List.drop_eq_nil_of_le hle] at h
    cases h
  rw [List.drop_eq_getElem_cons hlt] at h
  obtain ⟨hc, hs⟩ := List.cons.inj h
  exact ⟨hlt, hc, hs⟩

theorem length_of_drop_nil (h : glob.drop place = []) : ¬ place < glob.length :=
  Nat.not_lt_of_le (List.drop_eq_nil_iff.1 h)

theorem drop_of_cons (h : glob.drop place = c :: s) : glob.drop (place + 1) = s := by
  obtain ⟨-, -, hs⟩ := place_of_drop h
  exact hs

theorem drop_of_cons_cons {d : Char} (h : glob.drop place = c :: d :: s) :
    glob.drop (place + 2) = s :=
  drop_of_cons (drop_of_cons h)

theorem drop_of_append {text rest : List Char} (h : glob.drop place = text ++ rest) :
    glob.drop (place + text.length) = rest := by
  rw [← List.drop_drop, h, List.drop_left]

theorem slice_of_drop {text rest : List Char} (hlt : place ≤ glob.length)
    (h : glob.drop place = text ++ rest) :
    slice glob place (place + text.length) = .ok text := by
  have hlength := congrArg List.length h
  rw [List.length_drop, List.length_append] at hlength
  rw [slice, if_pos (by omega), List.drop_take, h, Nat.add_sub_cancel_left, List.take_left]

theorem closingFrom_end {first : Nat} (h : glob.drop place = []) :
    closingFrom glob first place = none := by
  rw [closingFrom, dif_neg (length_of_drop_nil h)]

theorem closingFrom_escape {first : Nat} (h : glob.drop place = '\\' :: s) :
    closingFrom glob first place = closingFrom glob first (place + 2) := by
  obtain ⟨hlt, hc, -⟩ := place_of_drop h
  rw [closingFrom, dif_pos hlt]
  simp only [hc]

theorem closingFrom_plain {first : Nat} (hc : c ≠ '\\') (h : glob.drop place = c :: s) :
    closingFrom glob first place =
      if c = ']' ∧ first < place then some place else closingFrom glob first (place + 1) := by
  obtain ⟨hlt, rfl, -⟩ := place_of_drop h
  rw [closingFrom, dif_pos hlt]
  split
  · rename_i heq
    exact absurd heq hc
  · rename_i heq
    simp [heq]
  · rename_i heq
    rw [if_neg fun hclosing => heq hclosing.1]

/-- The bracket that closes a class stands where the members of the class end. -/
theorem closingFrom_eq {first : Nat} {isFirst : Bool} (hfirst : first ≤ place)
    (hisFirst : isFirst = (first == place)) (h : glob.drop place = s) :
    closingFrom glob first place =
      (classBody isFirst s).map fun body => place + body.1.length - 1 := by
  fun_induction classBody isFirst s generalizing place with
  | case1 => rw [closingFrom_end h, Option.map_none]
  | case2 isFirst =>
    have hbehind : glob.drop (place + 2) = [] := by
      rw [← List.drop_drop, h]
      rfl
    rw [closingFrom_escape h, closingFrom_end hbehind, Option.map_none]
  | case3 isFirst c s ih =>
    have hrest : glob.drop (place + 2) = s := drop_of_cons_cons h
    have hplain : false = (first == place + 2) := by
      rw [eq_comm, beq_eq_false_iff_ne]
      omega
    rw [closingFrom_escape h, ih (by omega) hplain hrest, Option.map_map]
    congr 1
    funext body
    simp only [Function.comp_apply, List.length_cons]
    omega
  | case4 isFirst c s hlone hescape hc =>
    simp only [hisFirst, Bool.and_eq_true, beq_iff_eq, Bool.not_eq_true', beq_eq_false_iff_ne]
      at hc
    rw [closingFrom_plain (ne_backslash hlone hescape) h, if_pos ⟨hc.1, by omega⟩, Option.map_some]
    rfl
  | case5 isFirst c s hlone hescape hc ih =>
    simp only [hisFirst, Bool.and_eq_true, beq_iff_eq, Bool.not_eq_true', beq_eq_false_iff_ne]
      at hc
    have hrest : glob.drop (place + 1) = s := drop_of_cons h
    have hplain : false = (first == place + 1) := by
      rw [eq_comm, beq_eq_false_iff_ne]
      omega
    have hnot : ¬ (c = ']' ∧ first < place) := fun hclosing => hc ⟨hclosing.1, by omega⟩
    rw [closingFrom_plain (ne_backslash hlone hescape) h, if_neg hnot,
      ih (by omega) hplain hrest, Option.map_map]
    congr 1
    funext body
    simp only [Function.comp_apply, List.length_cons]
    omega

theorem closingFrom_self (h : glob.drop place = s) :
    closingFrom glob place place =
      (classBody true s).map fun body => place + body.1.length - 1 :=
  closingFrom_eq (Nat.le_refl _) (beq_self_eq_true _).symm h

theorem classEnd_marked {mark : Char} (hmark : mark = '!' ∨ mark = '^')
    (h : glob.drop place = c :: mark :: s) :
    classEnd glob place = (classBody true s).map fun body => place + (body.1.length + 1) := by
  have hmarked : glob[place + 1]? = some '!' ∨ glob[place + 1]? = some '^' := by
    rw [← List.head?_drop, drop_of_cons h, List.head?_cons, Option.some_inj, Option.some_inj]
    exact hmark
  rw [classEnd, if_pos hmarked, closingFrom_self (drop_of_cons_cons h)]
  congr 1
  funext body
  omega

/-- A class ends where its text ends. -/
theorem classEnd_eq (h : glob.drop place = c :: s) :
    classEnd glob place = (classText s).map fun body => place + body.1.length := by
  fun_cases classText s with
  | case1 s =>
    rw [classEnd_marked (Or.inl rfl) h, Option.map_map]
    rfl
  | case2 s =>
    rw [classEnd_marked (Or.inr rfl) h, Option.map_map]
    rfl
  | case3 s hmark hcaret =>
    have hs : glob.drop (place + 1) = s := drop_of_cons h
    have hunmarked : ¬ (glob[place + 1]? = some '!' ∨ glob[place + 1]? = some '^') := by
      rw [← List.head?_drop, hs]
      rintro (hhead | hhead)
      · obtain ⟨t, rfl⟩ := List.head?_eq_some_iff.1 hhead
        exact hmark t rfl
      · obtain ⟨t, rfl⟩ := List.head?_eq_some_iff.1 hhead
        exact hcaret t rfl
    rw [classEnd, if_neg hunmarked, closingFrom_self hs]
    congr 1
    funext body
    omega

theorem classEnd_of_classText {text rest : List Char} (h : glob.drop place = c :: s)
    (htext : classText s = some (text, rest)) :
    classEnd glob place = some (place + text.length) := by
  rw [classEnd_eq h, htext, Option.map_some]

/-- The bracket that closes a class stands behind the one that opens it, in the glob. -/
theorem classEnd_range {close : Nat} (hlt : place < glob.length)
    (hclose : classEnd glob place = some close) : place ≤ close ∧ close < glob.length := by
  have h := List.drop_eq_getElem_cons hlt
  rw [classEnd_eq h] at hclose
  obtain ⟨⟨text, rest⟩, htext, rfl⟩ := Option.map_eq_some_iff.1 hclose
  have hlength := congrArg List.length h
  rw [classText_append htext, List.length_drop, List.length_cons, List.length_append] at hlength
  exact ⟨Nat.le_add_right _ _, by simp only; omega⟩

end Places

/-- Goes over a group from a place inside it, with the alternatives before, the text of the one the
place is in, and the number of open braces. The result has the alternatives and the place of the
brace that closes the group. -/
def scanGroup (glob : List Char) (done : List (List Char)) (current : List Char) (depth : Nat)
    (place : Nat) : Except Stop (List (List Char) × Nat) :=
  if h : place < glob.length then
    match glob[place] with
    | '\\' =>
      match glob[place + 1]? with
      | some c => scanGroup glob done (current ++ ['\\', c]) depth (place + 2)
      | none => .error .unclosed
    | '[' =>
      match hclose : classEnd glob place with
      | some close =>
        match slice glob place (close + 1) with
        | .ok text => scanGroup glob done (current ++ text) depth (close + 1)
        | .error stop => .error stop
      | none => scanGroup glob done (current ++ ['[']) depth (place + 1)
    | '{' =>
      scanGroup glob done (if depth = 0 then current else current ++ ['{']) (depth + 1) (place + 1)
    | '}' =>
      if depth = 0 then .error .underflow
      else if depth = 1 then .ok (done ++ [current], place)
      else scanGroup glob done (current ++ ['}']) (depth - 1) (place + 1)
    | ',' =>
      if depth = 1 then scanGroup glob (done ++ [current]) [] depth (place + 1)
      else scanGroup glob done (current ++ [',']) depth (place + 1)
    | c => scanGroup glob done (current ++ [c]) depth (place + 1)
  else .error .unclosed
termination_by glob.length - place
decreasing_by
  all_goals try omega
  have := (classEnd_range h hclose).1
  omega

/-- The alternatives of the group opened at a place, and the place of the brace that closes it. -/
def braceGroup (glob : List Char) (opened : Nat) : Except Stop (List (List Char) × Nat) :=
  scanGroup glob [] [] 0 opened

/-- The result of an expansion that has no fault. -/
def orUnclosed {α : Type} : Option α → Except Stop α
  | some result => .ok result
  | none => .error .unclosed

/-- What the scan of a group gives, if `group` is what stands behind the place. -/
def Group.scanned (group : Group) (glob : List Char) (done : List (List Char))
    (current : List Char) : List (List Char) × Nat :=
  (done ++ (current ++ group.alternative) :: group.others, glob.length - group.rest.length - 1)

section Scanned

variable {glob : List Char} {done : List (List Char)} {current : List Char} {depth place : Nat}
  {s : List Char}

theorem scanned_prepend (group : Group) (text : List Char) :
    (group.prepend text).scanned glob done current =
      group.scanned glob done (current ++ text) := by
  simp [Group.scanned, Group.prepend]

theorem map_scanned_prepend (text : List Char) (group : Option Group) :
    (group.map (·.prepend text)).map (·.scanned glob done current) =
      group.map (·.scanned glob done (current ++ text)) := by
  simp [Function.comp_def, scanned_prepend]

theorem scanGroup_end (h : glob.drop place = []) :
    scanGroup glob done current depth place = .error .unclosed := by
  rw [scanGroup, dif_neg (length_of_drop_nil h)]

theorem scanGroup_dangling (h : glob.drop place = ['\\']) :
    scanGroup glob done current depth place = .error .unclosed := by
  obtain ⟨hlt, hc, hend⟩ := place_of_drop h
  have hnext : glob[place + 1]? = none := by
    rw [← List.head?_drop, hend]
    rfl
  rw [scanGroup, dif_pos hlt]
  simp only [hc, hnext]

theorem scanGroup_escape {c : Char} (h : glob.drop place = '\\' :: c :: s) :
    scanGroup glob done current depth place =
      scanGroup glob done (current ++ ['\\', c]) depth (place + 2) := by
  obtain ⟨hlt, hc, hrest⟩ := place_of_drop h
  have hnext : glob[place + 1]? = some c := by
    rw [← List.head?_drop, hrest]
    rfl
  rw [scanGroup, dif_pos hlt]
  simp only [hc, hnext]

theorem scanGroup_class {text rest : List Char} (h : glob.drop place = '[' :: s)
    (htext : classText s = some (text, rest)) :
    scanGroup glob done current depth place =
      scanGroup glob done (current ++ '[' :: text) depth (place + text.length + 1) := by
  obtain ⟨hlt, hc, -⟩ := place_of_drop h
  have hclose := classEnd_of_classText h htext
  have hslice : slice glob place (place + text.length + 1) = .ok ('[' :: text) := by
    have hdrop : glob.drop place = ('[' :: text) ++ rest := by
      rw [h, classText_append htext, List.cons_append]
    exact slice_of_drop (Nat.le_of_lt hlt) hdrop
  rw [scanGroup, dif_pos hlt]
  simp only [hc]
  split
  · rename_i close hsome
    cases hclose.symm.trans hsome
    rw [hslice]
  · rename_i hnone
    cases hclose.symm.trans hnone

theorem scanGroup_bracket (h : glob.drop place = '[' :: s) (htext : classText s = none) :
    scanGroup glob done current depth place =
      scanGroup glob done (current ++ ['[']) depth (place + 1) := by
  obtain ⟨hlt, hc, -⟩ := place_of_drop h
  have hclose : classEnd glob place = none := by
    rw [classEnd_eq h, htext, Option.map_none]
  rw [scanGroup, dif_pos hlt]
  simp only [hc]
  split
  · rename_i close hsome
    cases hclose.symm.trans hsome
  · rfl

theorem scanGroup_open (h : glob.drop place = '{' :: s) :
    scanGroup glob done current depth place =
      scanGroup glob done (if depth = 0 then current else current ++ ['{']) (depth + 1)
        (place + 1) := by
  obtain ⟨hlt, hc, -⟩ := place_of_drop h
  rw [scanGroup, dif_pos hlt]
  simp only [hc]

theorem scanGroup_close (h : glob.drop place = '}' :: s) :
    scanGroup glob done current (depth + 1) place =
      if depth = 0 then .ok (done ++ [current], place)
      else scanGroup glob done (current ++ ['}']) depth (place + 1) := by
  obtain ⟨hlt, hc, -⟩ := place_of_drop h
  rw [scanGroup, dif_pos hlt]
  simp only [hc, if_neg (Nat.succ_ne_zero depth), Nat.add_eq_right, Nat.add_sub_cancel]

theorem scanGroup_comma (h : glob.drop place = ',' :: s) :
    scanGroup glob done current depth place =
      if depth = 1 then scanGroup glob (done ++ [current]) [] depth (place + 1)
      else scanGroup glob done (current ++ [',']) depth (place + 1) := by
  obtain ⟨hlt, hc, -⟩ := place_of_drop h
  rw [scanGroup, dif_pos hlt]
  simp only [hc]

theorem scanGroup_plain {c : Char} (hplain : c ≠ '\\' ∧ c ≠ '[' ∧ c ≠ '{')
    (hnested : c ≠ '}' ∧ c ≠ ',') (h : glob.drop place = c :: s) :
    scanGroup glob done current depth place =
      scanGroup glob done (current ++ [c]) depth (place + 1) := by
  obtain ⟨hlt, rfl, -⟩ := place_of_drop h
  rw [scanGroup, dif_pos hlt]
  split
  next heq => exact absurd heq hplain.1
  next heq => exact absurd heq hplain.2.1
  next heq => exact absurd heq hplain.2.2
  next heq => exact absurd heq hnested.1
  next heq => exact absurd heq hnested.2
  next => rfl

/-- Inside a group, counting braces by place finds what the reader of the group finds, and its count
is above zero at every brace that closes. -/
theorem scanGroup_eq {nested : Nat} (h : glob.drop place = s) :
    scanGroup glob done current (nested + 1) place =
      orUnclosed ((groupFrom nested s).map (·.scanned glob done current)) := by
  fun_induction groupFrom nested s generalizing place done current with
  | case1 => exact scanGroup_end h
  | case2 => exact scanGroup_dangling h
  | case3 nested c s ih => rw [scanGroup_escape h, ih (drop_of_cons_cons h), map_scanned_prepend]
  | case4 nested s text rest htext ih =>
    have hrest : glob.drop (place + text.length + 1) = rest := by
      have hdrop : glob.drop place = ('[' :: text) ++ rest := by
        rw [h, classText_append htext, List.cons_append]
      exact drop_of_append hdrop
    rw [scanGroup_class h htext, ih hrest, map_scanned_prepend]
  | case5 nested s htext ih =>
    rw [scanGroup_bracket h htext, ih (drop_of_cons h), map_scanned_prepend]
  | case6 nested s ih =>
    rw [scanGroup_open h, if_neg (Nat.succ_ne_zero nested), ih (drop_of_cons h),
      map_scanned_prepend]
  | case7 s =>
    have hlength := congrArg List.length h
    rw [List.length_drop, List.length_cons] at hlength
    have hplace : glob.length - s.length - 1 = place := by omega
    rw [scanGroup_close h, if_pos rfl]
    simp [orUnclosed, Group.scanned, hplace]
  | case8 s nested ih =>
    rw [scanGroup_close h, if_neg (Nat.succ_ne_zero nested), ih (drop_of_cons h),
      map_scanned_prepend]
  | case9 s ih =>
    rw [scanGroup_comma h, if_pos rfl, ih (drop_of_cons h), Option.map_map]
    congr 2
    funext group
    simp [Group.scanned, Group.alternatives]
  | case10 nested s hnested ih =>
    rw [scanGroup_comma h, if_neg (by omega), ih (drop_of_cons h), map_scanned_prepend]
  | case11 nested c s hlone hescape hclass hopen hclose hcomma ih =>
    have hplain : c ≠ '\\' ∧ c ≠ '[' ∧ c ≠ '{' := ⟨ne_backslash hlone hescape, hclass, hopen⟩
    rw [scanGroup_plain hplain ⟨hclose, hcomma⟩ h, ih (drop_of_cons h), map_scanned_prepend]

/-- The scan of a group ends with its alternatives and the place of the brace that closes it, or
at the end of the glob. -/
theorem braceGroup_eq (h : glob.drop place = '{' :: s) :
    braceGroup glob place = orUnclosed ((groupFrom 0 s).map fun group =>
      (group.alternatives, glob.length - group.rest.length - 1)) := by
  rw [braceGroup, scanGroup_open h, if_pos rfl, scanGroup_eq (drop_of_cons h)]
  rfl

/-- A group ends with a closing brace, and what follows the group is behind it. -/
theorem brace_rest_suffix {nested : Nat} {group : Group} (h : groupFrom nested s = some group) :
    '}' :: group.rest <:+ s := by
  fun_induction groupFrom nested s generalizing group with
  | case1 => cases h
  | case2 => cases h
  | case3 nested c s ih =>
    obtain ⟨g, hg, rfl⟩ := Option.map_eq_some_iff.1 h
    exact (ih hg).trans (List.suffix_append ['\\', c] s)
  | case4 nested s text rest htext ih =>
    obtain ⟨g, hg, rfl⟩ := Option.map_eq_some_iff.1 h
    rw [classText_append htext]
    exact (ih hg).trans (List.suffix_append ('[' :: text) rest)
  | case5 nested s htext ih =>
    obtain ⟨g, hg, rfl⟩ := Option.map_eq_some_iff.1 h
    exact (ih hg).trans (List.suffix_cons '[' s)
  | case6 nested s ih =>
    obtain ⟨g, hg, rfl⟩ := Option.map_eq_some_iff.1 h
    exact (ih hg).trans (List.suffix_cons '{' s)
  | case7 s =>
    cases h
    exact List.suffix_refl ('}' :: s)
  | case8 s nested ih =>
    obtain ⟨g, hg, rfl⟩ := Option.map_eq_some_iff.1 h
    exact (ih hg).trans (List.suffix_cons '}' s)
  | case9 s ih =>
    obtain ⟨g, hg, rfl⟩ := Option.map_eq_some_iff.1 h
    exact (ih hg).trans (List.suffix_cons ',' s)
  | case10 nested s hnested ih =>
    obtain ⟨g, hg, rfl⟩ := Option.map_eq_some_iff.1 h
    exact (ih hg).trans (List.suffix_cons ',' s)
  | case11 nested c s _ _ _ _ _ _ ih =>
    obtain ⟨g, hg, rfl⟩ := Option.map_eq_some_iff.1 h
    exact (ih hg).trans (List.suffix_cons c s)

/-- The place where a group ends is behind its opening brace, in the glob, and has a closing
brace. -/
theorem braceGroup_range {alternatives : List (List Char)} {close : Nat}
    (h : glob.drop place = '{' :: s) (hclose : braceGroup glob place = .ok (alternatives, close)) :
    place < close ∧ ∃ group, groupFrom 0 s = some group ∧ alternatives = group.alternatives ∧
      glob.drop close = '}' :: group.rest := by
  rw [braceGroup_eq h] at hclose
  cases hgroup : groupFrom 0 s with
  | none =>
    rw [hgroup] at hclose
    cases hclose
  | some group =>
    rw [hgroup] at hclose
    cases hclose
    obtain ⟨text, rfl⟩ := brace_rest_suffix hgroup
    have hlength := congrArg List.length h
    simp only [List.length_drop, List.length_cons, List.length_append] at hlength
    have hplace : glob.length - group.rest.length - 1 = place + ('{' :: text).length := by
      rw [List.length_cons]
      omega
    have hdrop : glob.drop place = ('{' :: text) ++ '}' :: group.rest := h
    rw [hplace]
    refine ⟨?_, group, rfl, rfl, drop_of_append hdrop⟩
    rw [List.length_cons]
    omega

end Scanned

/-- The globs that have one of the alternatives in place of the group opened at a place. -/
def alternativeGlobs (glob : List Char) (place : Nat) : Except Stop (List (List Char)) := do
  let (alternatives, close) ← braceGroup glob place
  let before ← slice glob 0 place
  let behind ← slice glob (close + 1) glob.length
  return alternatives.map fun alternative => before ++ alternative ++ behind

section Expansion

variable {glob : List Char} {place : Nat} {s : List Char}

theorem slice_to_place (hle : place ≤ glob.length) :
    slice glob 0 place = .ok (glob.take place) := by
  rw [slice, if_pos ⟨Nat.zero_le _, hle⟩, List.drop_zero]

theorem slice_from_place (hle : place ≤ glob.length) :
    slice glob place glob.length = .ok (glob.drop place) := by
  rw [slice, if_pos ⟨hle, Nat.le_refl _⟩, List.take_length]

/-- The slices are in range, and what is in place of the group is one of its alternatives. -/
theorem alternativeGlobs_eq (h : glob.drop place = '{' :: s) :
    alternativeGlobs glob place = orUnclosed ((groupFrom 0 s).map fun group =>
      group.alternatives.map fun alternative => glob.take place ++ alternative ++ group.rest) := by
  have hscan := braceGroup_eq h
  rw [alternativeGlobs]
  cases hgroup : groupFrom 0 s with
  | none =>
    rw [hgroup] at hscan
    rw [hscan]
    rfl
  | some group =>
    rw [hgroup] at hscan
    obtain ⟨-, found, hfound, -, hdrop⟩ := braceGroup_range h hscan
    cases hgroup.symm.trans hfound
    obtain ⟨hlt, -, -⟩ := place_of_drop h
    obtain ⟨hclose, -, hrest⟩ := place_of_drop hdrop
    have hbefore := slice_to_place (Nat.le_of_lt hlt)
    have hbehind := slice_from_place (Nat.succ_le_of_lt hclose)
    rw [hrest] at hbehind
    rw [hscan]
    simp only [orUnclosed, Option.map_some, bind, Except.bind, hbefore, hbehind, pure, Except.pure]

/-- Each alternative makes the glob shorter. -/
theorem length_lt_of_mem_alternativeGlobs (h : glob.drop place = '{' :: s)
    {globs : List (List Char)} (hglobs : alternativeGlobs glob place = .ok globs) :
    ∀ other ∈ globs, other.length < glob.length := by
  rw [alternativeGlobs_eq h] at hglobs
  cases hgroup : groupFrom 0 s with
  | none =>
    rw [hgroup] at hglobs
    cases hglobs
  | some group =>
    rw [hgroup] at hglobs
    cases hglobs
    intro other hother
    obtain ⟨alternative, hmem, rfl⟩ := List.mem_map.1 hother
    have hshort := length_alternative_lt hgroup alternative hmem
    have hlength := congrArg List.length h
    simp only [List.length_drop, List.length_cons] at hlength
    simp only [List.length_append, List.length_take] at hshort ⊢
    omega

end Expansion

/-- Goes over a glob from a place where no group is open. With the first group each of its
alternatives is taken in turn, and the glob that has it in place of the group is gone over from its
start. -/
def expandFrom (glob : List Char) (place : Nat) : Except Stop (List (List Char)) :=
  if h : place < glob.length then
    match hc : glob[place] with
    | '\\' => expandFrom glob (place + 2)
    | '[' =>
      match hclose : classEnd glob place with
      | some close => expandFrom glob (close + 1)
      | none => expandFrom glob (place + 1)
    | '{' =>
      match hglobs : alternativeGlobs glob place with
      | .ok globs => (globs.attach.mapM fun other => expandFrom other.1 0).map List.flatten
      | .error stop => .error stop
    | _ => expandFrom glob (place + 1)
  else .ok [glob]
termination_by (glob.length, glob.length - place)
decreasing_by
  · omega
  · have := (classEnd_range h hclose).1
    omega
  · omega
  · have hdrop := List.drop_eq_getElem_cons h
    rw [hc] at hdrop
    exact Prod.Lex.left _ _ (length_lt_of_mem_alternativeGlobs hdrop hglobs other.1 other.2)
  · omega

/-- The expansion of a glob, with all places counted from its start. -/
def expand (glob : List Char) : Except Stop (List (List Char)) :=
  expandFrom glob 0

section Steps

variable {glob : List Char} {place : Nat} {c : Char} {s : List Char}

theorem expandFrom_end (h : glob.drop place = []) : expandFrom glob place = .ok [glob] := by
  rw [expandFrom, dif_neg (length_of_drop_nil h)]

theorem expandFrom_escape (h : glob.drop place = '\\' :: s) :
    expandFrom glob place = expandFrom glob (place + 2) := by
  obtain ⟨hlt, hc, -⟩ := place_of_drop h
  rw [expandFrom, dif_pos hlt]
  split <;> simp_all

theorem expandFrom_class {text rest : List Char} (h : glob.drop place = '[' :: s)
    (htext : classText s = some (text, rest)) :
    expandFrom glob place = expandFrom glob (place + text.length + 1) := by
  obtain ⟨hlt, hc, -⟩ := place_of_drop h
  have hclose := classEnd_of_classText h htext
  rw [expandFrom, dif_pos hlt]
  split
  case h_2 =>
    split
    · rename_i close hsome
      cases hclose.symm.trans hsome
      rfl
    · rename_i hnone
      cases hclose.symm.trans hnone
  all_goals simp_all

theorem expandFrom_group (h : glob.drop place = '{' :: s) :
    expandFrom glob place = alternativeGlobs glob place >>= fun globs =>
      (globs.mapM fun other => expandFrom other 0).map List.flatten := by
  obtain ⟨hlt, hc, -⟩ := place_of_drop h
  rw [expandFrom, dif_pos hlt]
  split
  case h_3 =>
    split
    · rename_i globs hglobs
      rw [List.mapM_subtype (g := fun other => expandFrom other 0) fun _ _ => rfl,
        List.unattach_attach, hglobs]
      rfl
    · rename_i hstop
      rw [hstop]
      rfl
  all_goals simp_all

theorem expandFrom_plain (hplain : c ≠ '\\' ∧ c ≠ '[' ∧ c ≠ '{') (h : glob.drop place = c :: s) :
    expandFrom glob place = expandFrom glob (place + 1) := by
  obtain ⟨hlt, rfl, -⟩ := place_of_drop h
  rw [expandFrom, dif_pos hlt]
  split <;> simp_all

end Steps

/-- Text in which no group and no class is open at the end, and no group at all: what an expansion
passes on its way to the first group. -/
inductive Passed : List Char → Prop where
  | nil : Passed []
  | plain {c : Char} {s : List Char} (hplain : c ≠ '\\' ∧ c ≠ '[' ∧ c ≠ '{') (hs : Passed s) :
      Passed (c :: s)
  | escaped {c : Char} {s : List Char} (hs : Passed s) : Passed ('\\' :: c :: s)
  | charClass {text s : List Char} (htext : classText text = some (text, [])) (hs : Passed s) :
      Passed ('[' :: text ++ s)

section Passed

variable {before s : List Char}

theorem Passed.append (h : Passed before) (hs : Passed s) : Passed (before ++ s) := by
  induction h with
  | nil => exact hs
  | plain hplain _ ih => exact .plain hplain ih
  | escaped _ ih => exact .escaped ih
  | charClass htext _ ih =>
    rw [List.append_assoc]
    exact .charClass htext ih

/-- An expansion that starts in front of such a text comes to its end. -/
theorem Passed.expandFrom_eq (h : Passed before) {glob : List Char} {place : Nat}
    (hdrop : glob.drop place = before ++ s) :
    expandFrom glob place = expandFrom glob (place + before.length) := by
  induction h generalizing place with
  | nil => rfl
  | plain hplain _ ih =>
    rw [expandFrom_plain hplain hdrop, ih (drop_of_cons hdrop), List.length_cons]
    congr 1
    omega
  | escaped _ ih =>
    rw [expandFrom_escape hdrop, ih (drop_of_cons_cons hdrop), List.length_cons, List.length_cons]
    congr 1
    omega
  | @charClass text more htext _ ih =>
    have hread : classText (text ++ (more ++ s)) = some (text, more ++ s) :=
      classText_append_of_closed htext (more ++ s)
    rw [List.append_assoc] at hdrop
    have hbehind : glob.drop (place + text.length + 1) = more ++ s := drop_of_append hdrop
    rw [expandFrom_class hdrop hread, ih hbehind, List.length_append, List.length_cons]
    congr 1
    omega

theorem Passed.spellings_eq (h : Passed before) :
    spellings (before ++ s) = (spellings s).map (·.map (before ++ ·)) := by
  induction h with
  | nil => simp
  | plain hplain _ ih =>
    rw [List.cons_append, spellings_plain hplain, ih]
    simp [Function.comp_def]
  | escaped _ ih =>
    rw [List.cons_append, List.cons_append, spellings, ih]
    simp [Function.comp_def]
  | charClass htext _ ih =>
    rw [List.append_assoc, spellings_class htext, ih]
    simp [Function.comp_def]

end Passed

theorem map_orUnclosed {α β : Type} (f : α → β) (result : Option α) :
    (orUnclosed result).map f = orUnclosed (result.map f) := by
  cases result with
  | none => rfl
  | some result => rfl

theorem mapM_orUnclosed {globs : List (List Char)} {before : List Char}
    {f : List Char → Except Stop (List (List Char))} {g : List Char → Option (List (List Char))}
    (h : ∀ glob ∈ globs, f glob = orUnclosed ((g glob).map (·.map (before ++ ·)))) :
    globs.mapM f = orUnclosed ((globs.mapM g).map (·.map (·.map (before ++ ·)))) := by
  induction globs with
  | nil => rfl
  | cons glob globs ih =>
    have hglob := h glob List.mem_cons_self
    have hrest := ih fun other hother => h other (List.mem_cons_of_mem _ hother)
    rw [List.mapM_cons, List.mapM_cons, hglob, hrest]
    cases g glob with
    | none => rfl
    | some first =>
      cases globs.mapM g with
      | none => rfl
      | some later => rfl

/-- With any text without groups in front of it, the text `s` is expanded as it is on its own. -/
def ExpandsBehind (s : List Char) : Prop :=
  ∀ before, Passed before → expandFrom (before ++ s) before.length =
    orUnclosed ((spellings s).map (·.map (before ++ ·)))

theorem ExpandsBehind.append {text s : List Char} (htext : Passed text) (h : ExpandsBehind s) :
    ExpandsBehind (text ++ s) := by
  intro before hbefore
  have hdrop : (before ++ (text ++ s)).drop before.length = text ++ s := List.drop_left
  have hlater := h (before ++ text) (hbefore.append htext)
  rw [List.append_assoc, List.length_append] at hlater
  rw [htext.expandFrom_eq hdrop, hlater, htext.spellings_eq, Option.map_map]
  simp [Function.comp_def]

/-- A group is expanded like the text with each of its alternatives in place of it, gone over again
from the start. -/
theorem ExpandsBehind.group {s : List Char}
    (h : ∀ group, groupFrom 0 s = some group →
      ∀ alternative ∈ group.alternatives, ExpandsBehind (alternative ++ group.rest)) :
    ExpandsBehind ('{' :: s) := by
  intro before hbefore
  have hdrop : (before ++ '{' :: s).drop before.length = '{' :: s := List.drop_left
  rw [expandFrom_group hdrop, alternativeGlobs_eq hdrop, List.take_left, spellings]
  split
  · rename_i group hgroup
    have hagain : ∀ alternative ∈ group.alternatives,
        expandFrom (before ++ alternative ++ group.rest) 0 =
          orUnclosed ((spellings (alternative ++ group.rest)).map (·.map (before ++ ·))) := by
      intro alternative hmem
      have hstart : (before ++ (alternative ++ group.rest)).drop 0 =
          before ++ (alternative ++ group.rest) := List.drop_zero
      rw [List.append_assoc, hbefore.expandFrom_eq hstart, Nat.zero_add]
      exact h group hgroup alternative hmem before hbefore
    rw [hgroup, Option.map_some, List.mapM_subtype (g := fun text => spellings (text ++ group.rest))
      fun _ _ => rfl, List.unattach_attach, Option.map_map]
    change Except.map List.flatten ((group.alternatives.map _).mapM _) = _
    rw [List.mapM_map, Function.comp_def, mapM_orUnclosed hagain, map_orUnclosed, Option.map_map]
    congr 2
    funext expanded
    exact List.map_flatten.symm
  · rename_i hnone
    rw [hnone]
    rfl

/-- Behind text without groups, going over the glob again from its start for each alternative gives
what going on behind the text gives. -/
theorem expandsBehind_of_classesClosed {s : List Char} (hclasses : classesClosed s = true) :
    ExpandsBehind s := by
  refine classesClosed_induction ?nil ?dangling ?escaped ?charClass ?group ?plain hclasses
  case nil =>
    intro before _
    rw [expandFrom_end (by rw [List.drop_left]), spellings]
    rfl
  case dangling =>
    intro before _
    have hdrop : (before ++ ['\\']).drop before.length = ['\\'] := List.drop_left
    have hend : (before ++ ['\\']).drop (before.length + 2) = [] := by
      rw [← List.drop_drop, hdrop]
      rfl
    rw [expandFrom_escape hdrop, expandFrom_end hend]
    simp [spellings, orUnclosed]
  case escaped =>
    intro c s ih
    exact ih.append (.escaped .nil)
  case charClass =>
    intro text s htext ih
    exact ih.append (by simpa using Passed.charClass htext .nil)
  case group =>
    intro s hs ih
    apply ExpandsBehind.group
    intro group hgroup alternative hmem
    have hshort := length_alternative_lt hgroup alternative hmem
    apply ih _ (Nat.le_of_lt hshort)
    rcases groupEnds_or_open hs with ⟨rest, hends⟩ | hopen
    · rw [hends.classesClosed_alternative hgroup alternative hmem]
      exact hs
    · cases hgroup.symm.trans (hopen 0).1
  case plain =>
    intro c s hplain ih
    exact ih.append (.plain hplain .nil)

/-- The expansion by places is the one that goes over the glob once. -/
theorem expand_eq_orUnclosed {glob : List Char} (hclasses : classesClosed glob = true) :
    expand glob = orUnclosed (spellings glob) := by
  have h := expandsBehind_of_classesClosed hclasses [] .nil
  simpa [expand] using h

theorem orUnclosed_eq_ok_iff {α : Type} {result : Option α} {value : α} :
    orUnclosed result = .ok value ↔ result = some value := by
  cases result with
  | none => exact iff_of_false (by intro h; cases h) (by intro h; cases h)
  | some found => rw [orUnclosed, Except.ok.injEq, Option.some_inj]

theorem orUnclosed_eq_error_iff {α : Type} {result : Option α} {stop : Stop} :
    orUnclosed result = .error stop ↔ result = none ∧ stop = .unclosed := by
  cases result with
  | none => rw [orUnclosed, Except.error.injEq, eq_comm, and_iff_right rfl]
  | some found => exact iff_of_false (by intro h; cases h) (by rintro ⟨h, -⟩; cases h)

/-- A spelling without groups. Only outside of groups it may end in a backslash. -/
def GroupFree (nested : Bool) (spelling : List Char) : Prop :=
  ∃ text, Passed text ∧ (spelling = text ∨ nested = false ∧ spelling = text ++ ['\\'])

theorem GroupFree.append {nested : Bool} {text spelling : List Char} (htext : Passed text)
    (h : GroupFree nested spelling) : GroupFree nested (text ++ spelling) := by
  obtain ⟨more, hmore, rfl | ⟨hnested, rfl⟩⟩ := h
  · exact ⟨_, htext.append hmore, Or.inl rfl⟩
  · exact ⟨text ++ more, htext.append hmore, Or.inr ⟨hnested, (List.append_assoc ..).symm⟩⟩

/-- There is no group left in a spelling. -/
theorem Spells.groupFree {nested : Bool} {glob : List Char} {spelled : List (List Char)}
    (h : Spells nested glob spelled) : ∀ spelling ∈ spelled, GroupFree nested spelling := by
  induction h with
  | nil =>
    intro spelling hmem
    rw [List.mem_singleton.1 hmem]
    exact ⟨[], .nil, Or.inl rfl⟩
  | @plain nested c s spelled hplain hnested hs ih =>
    intro spelling hmem
    obtain ⟨rest, hrest, rfl⟩ := List.mem_map.1 hmem
    exact (ih rest hrest).append (.plain hplain .nil)
  | escaped hs ih =>
    intro spelling hmem
    obtain ⟨rest, hrest, rfl⟩ := List.mem_map.1 hmem
    exact (ih rest hrest).append (.escaped .nil)
  | charClass htext hs ih =>
    intro spelling hmem
    obtain ⟨rest, hrest, rfl⟩ := List.mem_map.1 hmem
    exact (ih rest hrest).append (by simpa using Passed.charClass htext .nil)
  | group hne halternatives hs ihalternatives ih =>
    intro spelling hmem
    simp only [product, List.mem_flatMap, List.mem_map] at hmem
    obtain ⟨first, ⟨alternative, halternative, hfirst⟩, last, hlast, rfl⟩ := hmem
    obtain ⟨text, htext, rfl | ⟨hfalse, -⟩⟩ := ihalternatives alternative halternative first hfirst
    · exact (ih last hlast).append htext
    · cases hfalse
  | dangling =>
    intro spelling hmem
    rw [List.mem_singleton.1 hmem]
    exact ⟨[], .nil, Or.inr ⟨rfl, rfl⟩⟩

/-- Whatever the glob is, an expansion runs into no fault. -/
theorem expandFrom_error {glob : List Char} {place : Nat} {stop : Stop}
    (h : expandFrom glob place = .error stop) : stop = .unclosed := by
  fun_induction expandFrom glob place with
  | case1 glob place hlt hc ih => exact ih h
  | case2 glob place hlt hc close hclose ih => exact ih h
  | case3 glob place hlt hc hclose ih => exact ih h
  | case4 glob place hlt hc globs hglobs ih =>
    cases hmap : globs.attach.mapM fun other => expandFrom other.1 0 with
    | ok expanded =>
      rw [hmap] at h
      cases h
    | error first =>
      rw [hmap] at h
      cases h
      obtain ⟨other, -, herror⟩ := exists_error_of_mapM hmap
      exact ih other herror
  | case5 glob place hlt hc first hfirst =>
    cases h
    have hdrop := List.drop_eq_getElem_cons hlt
    rw [hc] at hdrop
    rw [alternativeGlobs_eq hdrop] at hfirst
    exact (orUnclosed_eq_error_iff.1 hfirst).2
  | case6 glob place hlt _ _ _ ih => exact ih h
  | case7 => cases h

theorem braceGroup_unclosed_or_inRange {glob s : List Char} {place : Nat}
    (h : glob.drop place = '{' :: s) :
    braceGroup glob place = .error .unclosed ∨
      ∃ alternatives close, braceGroup glob place = .ok (alternatives, close) ∧ place < close ∧
        glob[close]? = some '}' := by
  have hscan := braceGroup_eq h
  cases hresult : braceGroup glob place with
  | error stop =>
    rw [hresult, eq_comm, orUnclosed_eq_error_iff] at hscan
    rw [hscan.2]
    exact Or.inl rfl
  | ok found =>
    obtain ⟨hlt, group, -, -, hdrop⟩ := braceGroup_range h hresult
    refine Or.inr ⟨found.1, found.2, rfl, hlt, ?_⟩
    rw [← List.head?_drop, hdrop]
    rfl

/-- The expansion of a glob whose classes are closed gives all choices of one alternative for each
group, the first group counting most, with no group left in them, and it fails exactly if a group is
never closed. For any glob, no count of braces runs below zero and no slice is out of range, and the
place where a group ends is one in the glob. -/
theorem expand_eq_ok_iff_spells {glob : List Char} (hclasses : classesClosed glob = true) :
    expand glob = orUnclosed (spellings glob) ∧
    (∀ spelled, expand glob = .ok spelled ↔ Spells false glob spelled) ∧
    (∀ spelled, expand glob = .ok spelled → ∀ spelling ∈ spelled, GroupFree false spelling) ∧
    (expand glob = .error .unclosed ↔ groupsClosed 0 glob = false) ∧
    (∀ other stop, expand other = .error stop → stop = .unclosed) ∧
    ∀ other place s, other.drop place = '{' :: s →
      braceGroup other place = .error .unclosed ∨
        ∃ alternatives close, braceGroup other place = .ok (alternatives, close) ∧ place < close ∧
          other[close]? = some '}' := by
  have hexpand := expand_eq_orUnclosed hclasses
  have hspells : ∀ spelled, expand glob = .ok spelled ↔ Spells false glob spelled := by
    intro spelled
    rw [hexpand, orUnclosed_eq_ok_iff, spellings_eq_some_iff hclasses]
  refine ⟨hexpand, hspells, ?_, ?_, ?_, ?_⟩
  · intro spelled hspelled
    exact ((hspells spelled).1 hspelled).groupFree
  · rw [hexpand, orUnclosed_eq_error_iff, and_iff_left rfl, spellings_eq_none_iff hclasses]
  · intro other stop herror
    exact expandFrom_error herror
  · intro other place s h
    exact braceGroup_unclosed_or_inRange h

/-- The braces and the comma in the escape and in the class are no group. -/
theorem expand_nested_escaped :
    classesClosed "\x7ba,b\x7b1,2\x7d\x7d\\\x7b[\x7b,]".toList = true ∧
      expand "\x7ba,b\x7b1,2\x7d\x7d\\\x7b[\x7b,]".toList =
        .ok ["a\\\x7b[\x7b,]".toList, "b1\\\x7b[\x7b,]".toList, "b2\\\x7b[\x7b,]".toList] := by
  have hclasses : classesClosed "\x7ba,b\x7b1,2\x7d\x7d\\\x7b[\x7b,]".toList = true := by
    decide +kernel
  refine ⟨hclasses, (expand_eq_ok_iff_spells hclasses).1.trans ?_⟩
  rw [orUnclosed_eq_ok_iff]
  decide +kernel

end RouteTable.Glob
