import RouteTable.Glob.Braces
import Mathlib.Logic.Basic

/-!
What a glob with groups stands for, said on the shape of the glob: a group stands for any one of its
alternatives, and the spellings of a glob are all choices of one alternative for each group. The
expansion, which finds a group by counting braces and goes on with each of its alternatives in turn,
gives exactly these, in order, and fails exactly if a group is never closed.
-/

namespace RouteTable.Glob

/-- Each of the first texts with each of the last behind it, the first counting most. -/
def product (firsts lasts : List (List Char)) : List (List Char) :=
  firsts.flatMap fun first => lasts.map (first ++ ·)

/-- The spellings of a glob, or of an alternative of a group if `nested`. Alternatives are told
apart by commas, so there a comma and a closing brace stand for nothing on their own. -/
inductive Spells : Bool → List Char → List (List Char) → Prop where
  | nil {nested : Bool} : Spells nested [] [[]]
  | plain {nested : Bool} {c : Char} {s : List Char} {spelled : List (List Char)}
      (hplain : c ≠ '\\' ∧ c ≠ '[' ∧ c ≠ '{') (hnested : nested = true → c ≠ '}' ∧ c ≠ ',')
      (hs : Spells nested s spelled) : Spells nested (c :: s) (spelled.map (c :: ·))
  | escaped {nested : Bool} {c : Char} {s : List Char} {spelled : List (List Char)}
      (hs : Spells nested s spelled) :
      Spells nested ('\\' :: c :: s) (spelled.map (['\\', c] ++ ·))
  | charClass {nested : Bool} {text s : List Char} {spelled : List (List Char)}
      (htext : classText text = some (text, [])) (hs : Spells nested s spelled) :
      Spells nested ('[' :: text ++ s) (spelled.map ('[' :: text ++ ·))
  | group {nested : Bool} {alternatives : List (List Char × List (List Char))} {s : List Char}
      {spelled : List (List Char)} (hne : alternatives ≠ [])
      (halternatives : ∀ a ∈ alternatives, Spells true a.1 a.2) (hs : Spells nested s spelled) :
      Spells nested ('{' :: ([','].intercalate (alternatives.map Prod.fst) ++ '}' :: s))
        (product (alternatives.flatMap Prod.snd) spelled)
  | dangling : Spells false ['\\'] [['\\']]

/-- Whether every group that a text opens is closed, `depth` groups being open before it. Escapes
and closed classes open and close none, nor does a closing brace outside groups. -/
def groupsClosed (depth : Nat) (s : List Char) : Bool :=
  match s with
  | [] => depth == 0
  | '\\' :: _ :: s => groupsClosed depth s
  | '[' :: s =>
    match _hc : classText s with
    | some (_, rest) => groupsClosed depth rest
    | none => groupsClosed depth s
  | '{' :: s => groupsClosed (depth + 1) s
  | '}' :: s => groupsClosed (depth - 1) s
  | _ :: s => groupsClosed depth s
termination_by s.length
decreasing_by
  all_goals simp only [List.length_cons]
  all_goals first
    | omega
    | exact Nat.lt_succ_of_le (length_classText_le _hc)

def classesClosed (s : List Char) : Bool :=
  match s with
  | [] => true
  | '\\' :: _ :: s => classesClosed s
  | '[' :: s =>
    match _hc : classText s with
    | some (_, rest) => classesClosed rest
    | none => false
  | _ :: s => classesClosed s
termination_by s.length
decreasing_by
  all_goals simp only [List.length_cons]
  all_goals first
    | omega
    | exact Nat.lt_succ_of_le (length_classText_le _hc)

section Product

variable (firsts lasts : List (List Char))

@[simp] theorem product_singleton_nil : product [[]] lasts = lasts := by
  simp [product]

theorem product_map_left (text : List Char) :
    product (firsts.map (text ++ ·)) lasts = (product firsts lasts).map (text ++ ·) := by
  simp [product, List.flatMap_map, List.map_flatMap, Function.comp_def]

theorem product_assoc (middles : List (List Char)) :
    product (product firsts middles) lasts = product firsts (product middles lasts) := by
  simp [product, List.flatMap_assoc, List.flatMap_map, List.map_flatMap, Function.comp_def]

end Product

section Classes

/-- A character that is no dangling backslash and starts no escape is no backslash. -/
theorem ne_backslash {c : Char} {s : List Char} (hlone : c = '\\' → s = [] → False)
    (hescape : ∀ d t, c = '\\' → s = d :: t → False) : c ≠ '\\' := by
  intro hc
  cases s with
  | nil => exact hlone hc rfl
  | cons d t => exact hescape d t hc rfl

theorem classBody_plain {first : Bool} {c : Char} {s : List Char} (hc : c ≠ '\\') :
    classBody first (c :: s) =
      if c == ']' && !first then some ([c], s)
      else (classBody false s).map fun (text, rest) => (c :: text, rest) := by
  rw [classBody]
  · exact fun heq => absurd heq hc
  · exact fun _ _ heq => absurd heq hc

theorem classBody_append_right {first : Bool} {s text rest : List Char}
    (h : classBody first s = some (text, rest)) (tail : List Char) :
    classBody first (s ++ tail) = some (text, rest ++ tail) := by
  fun_induction classBody first s generalizing text rest with
  | case1 => cases h
  | case2 => cases h
  | case3 first c s ih =>
    obtain ⟨⟨t, r⟩, hr, heq⟩ := Option.map_eq_some_iff.1 h
    cases heq
    simp [classBody, ih hr]
  | case4 first c s hlone hescape hc =>
    cases h
    rw [List.cons_append, classBody_plain (ne_backslash hlone hescape), if_pos hc]
  | case5 first c s hlone hescape hc ih =>
    obtain ⟨⟨t, r⟩, hr, heq⟩ := Option.map_eq_some_iff.1 h
    cases heq
    rw [List.cons_append, classBody_plain (ne_backslash hlone hescape), if_neg hc, ih hr]
    rfl

theorem classText_of_ne {c : Char} {s : List Char} (hmark : c ≠ '!') (hcaret : c ≠ '^') :
    classText (c :: s) = classBody true (c :: s) := by
  rw [classText] <;> simp_all

theorem classText_append_right {s text rest : List Char} (h : classText s = some (text, rest))
    (tail : List Char) : classText (s ++ tail) = some (text, rest ++ tail) := by
  fun_cases classText s with
  | case1 s =>
    obtain ⟨⟨t, r⟩, hr, heq⟩ := Option.map_eq_some_iff.1 h
    cases heq
    simp [classText, classBody_append_right hr tail]
  | case2 s =>
    obtain ⟨⟨t, r⟩, hr, heq⟩ := Option.map_eq_some_iff.1 h
    cases heq
    simp [classText, classBody_append_right hr tail]
  | case3 s hmark hcaret =>
    cases s with
    | nil => cases h
    | cons c s =>
      have hmark' : c ≠ '!' := fun hc => hmark s (hc ▸ rfl)
      have hcaret' : c ≠ '^' := fun hc => hcaret s (hc ▸ rfl)
      rw [classText_of_ne hmark' hcaret'] at h
      rw [List.cons_append, classText_of_ne hmark' hcaret', ← List.cons_append,
        classBody_append_right h]

theorem classBody_self {first : Bool} {s text rest : List Char}
    (h : classBody first s = some (text, rest)) : classBody first text = some (text, []) := by
  fun_induction classBody first s generalizing text rest with
  | case1 => cases h
  | case2 => cases h
  | case3 first c s ih =>
    obtain ⟨⟨t, r⟩, hr, heq⟩ := Option.map_eq_some_iff.1 h
    cases heq
    simp [classBody, ih hr]
  | case4 first c s hlone hescape hc =>
    cases h
    simp only [Bool.and_eq_true, beq_iff_eq, Bool.not_eq_true'] at hc
    simp [classBody, hc]
  | case5 first c s hlone hescape hc ih =>
    obtain ⟨⟨t, r⟩, hr, heq⟩ := Option.map_eq_some_iff.1 h
    cases heq
    rw [classBody_plain (ne_backslash hlone hescape), if_neg hc, ih hr]
    rfl

/-- A closed class is one on its own. -/
theorem classText_self {s text rest : List Char} (h : classText s = some (text, rest)) :
    classText text = some (text, []) := by
  fun_cases classText s with
  | case1 s =>
    obtain ⟨⟨t, r⟩, hr, heq⟩ := Option.map_eq_some_iff.1 h
    cases heq
    simp [classText, classBody_self hr]
  | case2 s =>
    obtain ⟨⟨t, r⟩, hr, heq⟩ := Option.map_eq_some_iff.1 h
    cases heq
    simp [classText, classBody_self hr]
  | case3 s hmark hcaret =>
    cases s with
    | nil => cases h
    | cons c s =>
      have hmark' : c ≠ '!' := fun hc => hmark s (hc ▸ rfl)
      have hcaret' : c ≠ '^' := fun hc => hcaret s (hc ▸ rfl)
      rw [classText_of_ne hmark' hcaret'] at h
      have happend := classBody_append h
      cases text with
      | nil => cases classBody_self h
      | cons d text =>
        obtain ⟨rfl, -⟩ := List.cons.inj happend
        rw [classText_of_ne hmark' hcaret', classBody_self h]

end Classes

theorem groupFrom_plain {depth : Nat} {c : Char} {s : List Char}
    (hplain : c ≠ '\\' ∧ c ≠ '[' ∧ c ≠ '{') (hnested : c ≠ '}' ∧ c ≠ ',') :
    groupFrom depth (c :: s) = (groupFrom depth s).map (·.prepend [c]) := by
  rw [groupFrom] <;> simp_all

theorem groupsClosed_plain {depth : Nat} {c : Char} {s : List Char}
    (hplain : c ≠ '\\' ∧ c ≠ '[' ∧ c ≠ '{') (hnested : c ≠ '}') :
    groupsClosed depth (c :: s) = groupsClosed depth s := by
  rw [groupsClosed] <;> simp_all

theorem classesClosed_plain {c : Char} {s : List Char} (hplain : c ≠ '\\' ∧ c ≠ '[') :
    classesClosed (c :: s) = classesClosed s := by
  rw [classesClosed] <;> simp_all

theorem spellings_plain {c : Char} {s : List Char} (hplain : c ≠ '\\' ∧ c ≠ '[' ∧ c ≠ '{') :
    spellings (c :: s) = (spellings s).map (·.map (c :: ·)) := by
  rw [spellings] <;> simp_all

/-- A closed class is found again with a text behind it. -/
theorem classText_append_of_closed {text : List Char} (h : classText text = some (text, []))
    (s : List Char) : classText (text ++ s) = some (text, s) :=
  classText_append_right h s

theorem groupFrom_class {depth : Nat} {text s : List Char}
    (htext : classText text = some (text, [])) :
    groupFrom depth ('[' :: text ++ s) = (groupFrom depth s).map (·.prepend ('[' :: text)) := by
  have h := classText_append_of_closed htext s
  rw [List.cons_append, groupFrom]
  split
  · rename_i hsome
    cases h.symm.trans hsome
    rfl
  · rename_i hnone
    cases h.symm.trans hnone

theorem groupsClosed_class {depth : Nat} {text s : List Char}
    (htext : classText text = some (text, [])) :
    groupsClosed depth ('[' :: text ++ s) = groupsClosed depth s := by
  have h := classText_append_of_closed htext s
  rw [List.cons_append, groupsClosed]
  split
  · rename_i hsome
    cases h.symm.trans hsome
    rfl
  · rename_i hnone
    cases h.symm.trans hnone

theorem classesClosed_class {text s : List Char} (htext : classText text = some (text, [])) :
    classesClosed ('[' :: text ++ s) = classesClosed s := by
  have h := classText_append_of_closed htext s
  rw [List.cons_append, classesClosed]
  split
  · rename_i hsome
    cases h.symm.trans hsome
    rfl
  · rename_i hnone
    cases h.symm.trans hnone

theorem spellings_class {text s : List Char} (htext : classText text = some (text, [])) :
    spellings ('[' :: text ++ s) = (spellings s).map (·.map ('[' :: text ++ ·)) := by
  have h := classText_append_of_closed htext s
  rw [List.cons_append, spellings]
  split
  · rename_i hsome
    cases h.symm.trans hsome
    rfl
  · rename_i hnone
    cases h.symm.trans hnone

theorem prepend_prepend (first second : List Char) (group : Group) :
    (group.prepend second).prepend first = group.prepend (first ++ second) := by
  simp [Group.prepend]

@[simp] theorem prepend_nil (group : Group) : group.prepend [] = group :=
  rfl

theorem map_prepend_map (first second : List Char) (group : Option Group) :
    (group.map (·.prepend second)).map (·.prepend first) =
      group.map (·.prepend (first ++ second)) := by
  simp [Function.comp_def, prepend_prepend]

/-- Alternatives with commas between them and a closing brace behind them, in a group of their own
inside another. -/
theorem groupFrom_intercalate {depth : Nat} {alternatives : List (List Char)}
    (hne : alternatives ≠ []) (tail : List Char)
    (h : ∀ a ∈ alternatives, ∀ rest,
      groupFrom (depth + 1) (a ++ rest) = (groupFrom (depth + 1) rest).map (·.prepend a)) :
    groupFrom (depth + 1) ([','].intercalate alternatives ++ '}' :: tail) =
      (groupFrom depth tail).map (·.prepend ([','].intercalate alternatives ++ ['}'])) := by
  induction alternatives with
  | nil => exact absurd rfl hne
  | cons a alternatives ih =>
    have ha := h a List.mem_cons_self
    cases alternatives with
    | nil => rw [List.intercalate_singleton, ha, groupFrom, map_prepend_map]
    | cons b alternatives =>
      have hrest := ih (by simp) fun c hc => h c (List.mem_cons_of_mem _ hc)
      rw [List.intercalate_cons_cons, List.append_assoc, List.append_assoc, ha,
        List.singleton_append, groupFrom, if_neg (Nat.succ_ne_zero _), hrest, map_prepend_map,
        map_prepend_map]
      simp

/-- The text of an alternative is passed over as it is, at any depth. -/
theorem groupFrom_append {nested : Bool} {a : List Char} {spelled : List (List Char)}
    (h : Spells nested a spelled) (hnested : nested = true) (depth : Nat) (tail : List Char) :
    groupFrom depth (a ++ tail) = (groupFrom depth tail).map (·.prepend a) := by
  induction h generalizing depth tail with
  | nil => simp
  | plain hplain hcomma hs ih =>
    rw [List.cons_append, groupFrom_plain hplain (hcomma hnested), ih hnested, map_prepend_map]
    rfl
  | escaped hs ih =>
    rw [List.cons_append, List.cons_append, groupFrom, ih hnested, map_prepend_map]
    rfl
  | charClass htext hs ih =>
    rw [List.append_assoc, groupFrom_class htext, ih hnested, map_prepend_map]
  | @group _ alternatives s spelled hne halternatives hs ihalternatives ih =>
    have hsome : alternatives.map Prod.fst ≠ [] := by simpa using hne
    have hread : ∀ a ∈ alternatives.map Prod.fst, ∀ rest, groupFrom (depth + 1) (a ++ rest) =
        (groupFrom (depth + 1) rest).map (·.prepend a) := by
      intro a ha
      obtain ⟨alternative, hmem, rfl⟩ := List.mem_map.1 ha
      exact ihalternatives alternative hmem rfl (depth + 1)
    have hinner := groupFrom_intercalate hsome (s ++ tail) hread
    rw [List.cons_append, List.append_assoc, List.cons_append, groupFrom, hinner, ih hnested,
      map_prepend_map, map_prepend_map]
    simp
  | dangling => cases hnested

/-- A group ends where its braces close, and is split at its own commas only. -/
theorem groupFrom_zero_intercalate {a : List Char} {others : List (List Char)}
    (h : ∀ b ∈ a :: others, ∀ depth rest,
      groupFrom depth (b ++ rest) = (groupFrom depth rest).map (·.prepend b)) (tail : List Char) :
    groupFrom 0 ([','].intercalate (a :: others) ++ '}' :: tail) = some ⟨a, others, tail⟩ := by
  induction others generalizing a with
  | nil =>
    rw [List.intercalate_singleton, h a List.mem_cons_self, groupFrom]
    simp [Group.prepend]
  | cons b others ih =>
    rw [List.intercalate_cons_cons, List.append_assoc, List.append_assoc, h a List.mem_cons_self,
      List.singleton_append, groupFrom, if_pos rfl,
      ih fun c hc => h c (List.mem_cons_of_mem _ hc)]
    simp [Group.prepend, Group.alternatives]

theorem groupsClosed_intercalate {depth : Nat} {alternatives : List (List Char)}
    {tail : List Char}
    (h : ∀ a ∈ alternatives, ∀ rest,
      groupsClosed (depth + 1) (a ++ rest) = groupsClosed (depth + 1) rest) :
    groupsClosed (depth + 1) ([','].intercalate alternatives ++ '}' :: tail) =
      groupsClosed depth tail := by
  induction alternatives with
  | nil => rw [List.intercalate_nil, List.nil_append, groupsClosed, Nat.add_sub_cancel]
  | cons a alternatives ih =>
    have ha := h a List.mem_cons_self
    cases alternatives with
    | nil => rw [List.intercalate_singleton, ha, groupsClosed, Nat.add_sub_cancel]
    | cons b alternatives =>
      rw [List.intercalate_cons_cons, List.append_assoc, List.append_assoc, ha,
        List.singleton_append, groupsClosed_plain (by decide) (by decide),
        ih fun c hc => h c (List.mem_cons_of_mem _ hc)]

theorem classesClosed_intercalate {alternatives : List (List Char)} {tail : List Char}
    (h : ∀ a ∈ alternatives, ∀ rest, classesClosed (a ++ rest) = classesClosed rest) :
    classesClosed ([','].intercalate alternatives ++ '}' :: tail) = classesClosed tail := by
  induction alternatives with
  | nil => rw [List.intercalate_nil, List.nil_append, classesClosed_plain (by decide)]
  | cons a alternatives ih =>
    have ha := h a List.mem_cons_self
    cases alternatives with
    | nil => rw [List.intercalate_singleton, ha, classesClosed_plain (by decide)]
    | cons b alternatives =>
      rw [List.intercalate_cons_cons, List.append_assoc, List.append_assoc, ha,
        List.singleton_append, classesClosed_plain (by decide),
        ih fun c hc => h c (List.mem_cons_of_mem _ hc)]

theorem groupsClosed_append {nested : Bool} {a : List Char} {spelled : List (List Char)}
    (h : Spells nested a spelled) (hnested : nested = true) (depth : Nat) (tail : List Char) :
    groupsClosed depth (a ++ tail) = groupsClosed depth tail := by
  induction h generalizing depth tail with
  | nil => rfl
  | plain hplain hcomma hs ih =>
    rw [List.cons_append, groupsClosed_plain hplain (hcomma hnested).1, ih hnested]
  | escaped hs ih => rw [List.cons_append, List.cons_append, groupsClosed, ih hnested]
  | charClass htext hs ih => rw [List.append_assoc, groupsClosed_class htext, ih hnested]
  | @group _ alternatives s spelled hne halternatives hs ihalternatives ih =>
    rw [List.cons_append, List.append_assoc, List.cons_append, groupsClosed,
      groupsClosed_intercalate fun a ha => ?_, ih hnested]
    obtain ⟨alternative, hmem, rfl⟩ := List.mem_map.1 ha
    exact ihalternatives alternative hmem rfl (depth + 1)
  | dangling => cases hnested

theorem mapM_option_some {α β : Type*} {f : α → Option β} {g : α → β} {l : List α}
    (h : ∀ a ∈ l, f a = some (g a)) : l.mapM f = some (l.map g) := by
  induction l with
  | nil => rfl
  | cons a l ih =>
    rw [List.mapM_cons, h a List.mem_cons_self, ih fun b hb => h b (List.mem_cons_of_mem _ hb)]
    rfl

theorem map_flatten_mapM {f : List Char × List (List Char) → Option (List (List Char))}
    {spelled : Option (List (List Char))} {alternatives : List (List Char × List (List Char))}
    (hne : alternatives ≠ []) (h : ∀ a ∈ alternatives, f a = spelled.map (product a.2)) :
    (alternatives.mapM f).map List.flatten =
      spelled.map (product (alternatives.flatMap Prod.snd)) := by
  cases spelled with
  | none =>
    obtain ⟨a, others, rfl⟩ := List.exists_cons_of_ne_nil hne
    rw [List.mapM_cons, h a List.mem_cons_self]
    rfl
  | some lasts =>
    rw [mapM_option_some (g := fun a => product a.2 lasts) h, Option.map_some, Option.map_some,
      ← List.flatMap_def, product, List.flatMap_assoc]
    rfl

theorem groupFrom_zero_of_spells {a : List Char × List (List Char)}
    {others : List (List Char × List (List Char))} (h : ∀ b ∈ a :: others, Spells true b.1 b.2)
    (tail : List Char) :
    groupFrom 0 ([','].intercalate ((a :: others).map Prod.fst) ++ '}' :: tail) =
      some ⟨a.1, others.map Prod.fst, tail⟩ := by
  have hread : ∀ b ∈ a.1 :: others.map Prod.fst, ∀ depth rest,
      groupFrom depth (b ++ rest) = (groupFrom depth rest).map (·.prepend b) := by
    intro b hb
    obtain ⟨alternative, hmem, rfl⟩ := List.mem_map.1 (List.map_cons ▸ hb)
    exact groupFrom_append (h alternative hmem) rfl
  exact groupFrom_zero_intercalate hread tail

/-- A group is expanded to the products of its alternatives with what the rest is expanded to. -/
theorem spellings_group {alternatives : List (List Char × List (List Char))} {tail : List Char}
    (hne : alternatives ≠ []) (halternatives : ∀ a ∈ alternatives, Spells true a.1 a.2)
    (hspellings : ∀ a ∈ alternatives,
      spellings (a.1 ++ tail) = (spellings tail).map (product a.2)) :
    spellings ('{' :: ([','].intercalate (alternatives.map Prod.fst) ++ '}' :: tail)) =
      (spellings tail).map (product (alternatives.flatMap Prod.snd)) := by
  obtain ⟨a, others, rfl⟩ := List.exists_cons_of_ne_nil hne
  have hgroup := groupFrom_zero_of_spells halternatives tail
  rw [spellings]
  split
  · rename_i group hsome
    cases hgroup.symm.trans hsome
    rw [List.mapM_subtype (g := fun text => spellings (text ++ tail)) (fun _ _ => rfl),
      List.unattach_attach]
    change Option.map _ (((a :: others).map Prod.fst).mapM _) = _
    rw [List.mapM_map]
    exact map_flatten_mapM hne hspellings
  · rename_i hnone
    cases hgroup.symm.trans hnone

theorem classesClosed_append {nested : Bool} {a : List Char} {spelled : List (List Char)}
    (h : Spells nested a spelled) (hnested : nested = true) (tail : List Char) :
    classesClosed (a ++ tail) = classesClosed tail := by
  induction h generalizing tail with
  | nil => rfl
  | plain hplain hcomma hs ih =>
    rw [List.cons_append, classesClosed_plain ⟨hplain.1, hplain.2.1⟩, ih hnested]
  | escaped hs ih => rw [List.cons_append, List.cons_append, classesClosed, ih hnested]
  | charClass htext hs ih => rw [List.append_assoc, classesClosed_class htext, ih hnested]
  | @group _ alternatives s spelled hne halternatives hs ihalternatives ih =>
    rw [List.cons_append, List.append_assoc, List.cons_append, classesClosed_plain (by decide),
      classesClosed_intercalate fun a ha => ?_, ih hnested]
    obtain ⟨alternative, hmem, rfl⟩ := List.mem_map.1 ha
    exact ihalternatives alternative hmem rfl
  | dangling => cases hnested

theorem map_product_map (text : List Char) (firsts : List (List Char))
    (spelled : Option (List (List Char))) :
    (spelled.map (product firsts)).map (·.map (text ++ ·)) =
      spelled.map (product (firsts.map (text ++ ·))) := by
  rw [Option.map_map]
  congr 1
  funext lasts
  exact (product_map_left firsts lasts text).symm

/-- The expansion of a glob gives its spellings, whatever stands behind the glob. A backslash with
no character after it can only stand at the end. -/
theorem spellings_append {nested : Bool} {a : List Char} {spelled : List (List Char)}
    (h : Spells nested a spelled) (tail : List Char) (htail : nested = true ∨ tail = []) :
    spellings (a ++ tail) = (spellings tail).map (product spelled) := by
  induction h generalizing tail with
  | nil => cases hs : spellings tail <;> simp [hs]
  | @plain _ c _ _ hplain _ hs ih =>
    rw [List.cons_append, spellings_plain hplain, ih tail htail]
    exact map_product_map [c] _ _
  | escaped hs ih =>
    rw [List.cons_append, List.cons_append, spellings, ih tail htail]
    exact map_product_map _ _ _
  | charClass htext hs ih =>
    rw [List.append_assoc, spellings_class htext, ih tail htail]
    exact map_product_map _ _ _
  | @group _ alternatives s spelled hne halternatives hs ihalternatives ih =>
    rw [List.cons_append, List.append_assoc, List.cons_append,
      spellings_group hne halternatives fun a ha => ihalternatives a ha (s ++ tail) (Or.inl rfl),
      ih tail htail, Option.map_map]
    congr 1
    funext lasts
    exact (product_assoc _ lasts spelled).symm
  | dangling =>
    obtain rfl := htail.resolve_left Bool.false_ne_true
    simp [spellings, product]

/-- The expansion gives the spellings of a glob. -/
theorem spellings_eq_some {glob : List Char} {spelled : List (List Char)}
    (h : Spells false glob spelled) : spellings glob = some spelled := by
  have happend := spellings_append h [] (Or.inr rfl)
  rw [List.append_nil, spellings, Option.map_some] at happend
  rw [happend]
  simp [product]

theorem Spells.ne_nil {nested : Bool} {glob : List Char} {spelled : List (List Char)}
    (h : Spells nested glob spelled) : spelled ≠ [] := by
  induction h with
  | nil => simp
  | plain _ _ _ ih => simpa using ih
  | escaped _ ih => simpa using ih
  | charClass _ _ ih => simpa using ih
  | group hne _ _ ihalternatives ih =>
    obtain ⟨a, others, rfl⟩ := List.exists_cons_of_ne_nil hne
    obtain ⟨first, firsts, hfirst⟩ :=
      List.exists_cons_of_ne_nil (ihalternatives a List.mem_cons_self)
    simp [product, hfirst, ih]
  | dangling => simp

/-- A text inside a group goes on with alternatives up to the end of the group, and with `rest`
behind it. -/
def GroupEnds (s rest : List Char) : Prop :=
  ∃ alternatives : List (List Char × List (List Char)), alternatives ≠ [] ∧
    (∀ a ∈ alternatives, Spells true a.1 a.2) ∧
      s = [','].intercalate (alternatives.map Prod.fst) ++ '}' :: rest

theorem GroupEnds.brace (rest : List Char) : GroupEnds ('}' :: rest) rest :=
  ⟨[([], [[]])], by simp, fun a ha => by rw [List.mem_singleton.1 ha]; exact .nil, rfl⟩

theorem GroupEnds.comma {s rest : List Char} (h : GroupEnds s rest) :
    GroupEnds (',' :: s) rest := by
  obtain ⟨alternatives, hne, halternatives, rfl⟩ := h
  refine ⟨([], [[]]) :: alternatives, by simp, ?_, ?_⟩
  · exact List.forall_mem_cons.2 ⟨.nil, halternatives⟩
  · obtain ⟨a, others, rfl⟩ := List.exists_cons_of_ne_nil hne
    rfl

/-- What may stand in front of an alternative may stand in front of the first one. -/
theorem GroupEnds.append {s rest : List Char} (h : GroupEnds s rest) (text : List Char)
    (htext : ∀ t spelled, Spells true t spelled → ∃ more, Spells true (text ++ t) more) :
    GroupEnds (text ++ s) rest := by
  obtain ⟨alternatives, hne, halternatives, rfl⟩ := h
  obtain ⟨a, others, rfl⟩ := List.exists_cons_of_ne_nil hne
  obtain ⟨ha, hothers⟩ := List.forall_mem_cons.1 halternatives
  obtain ⟨more, hmore⟩ := htext _ _ ha
  refine ⟨(text ++ a.1, more) :: others, by simp, List.forall_mem_cons.2 ⟨hmore, hothers⟩, ?_⟩
  cases others <;> simp

/-- A group inside a group. -/
theorem GroupEnds.nest {s middle rest : List Char} (hinner : GroupEnds s middle)
    (houter : GroupEnds middle rest) : GroupEnds ('{' :: s) rest := by
  obtain ⟨alternatives, hne, halternatives, rfl⟩ := hinner
  have h := houter.append ('{' :: ([','].intercalate (alternatives.map Prod.fst) ++ ['}']))
    fun t spelled ht => ⟨_, by simpa using Spells.group hne halternatives ht⟩
  simpa using h

/-- The counters agree on a group that ends. -/
theorem GroupEnds.groupFrom_eq_none {s rest : List Char} (h : GroupEnds s rest) (depth : Nat)
    (hrest : groupFrom depth rest = none) : groupFrom (depth + 1) s = none := by
  obtain ⟨alternatives, hne, halternatives, rfl⟩ := h
  rw [groupFrom_intercalate (by simpa using hne), hrest]
  · rfl
  · intro a ha
    obtain ⟨alternative, hmem, rfl⟩ := List.mem_map.1 ha
    exact groupFrom_append (halternatives alternative hmem) rfl (depth + 1)

theorem GroupEnds.groupsClosed_eq {s rest : List Char} (h : GroupEnds s rest) (depth : Nat) :
    groupsClosed (depth + 1) s = groupsClosed depth rest := by
  obtain ⟨alternatives, _, halternatives, rfl⟩ := h
  refine groupsClosed_intercalate fun a ha => ?_
  obtain ⟨alternative, hmem, rfl⟩ := List.mem_map.1 ha
  exact groupsClosed_append (halternatives alternative hmem) rfl (depth + 1)

theorem GroupEnds.classesClosed_eq {s rest : List Char} (h : GroupEnds s rest) :
    classesClosed s = classesClosed rest := by
  obtain ⟨alternatives, _, halternatives, rfl⟩ := h
  refine classesClosed_intercalate fun a ha => ?_
  obtain ⟨alternative, hmem, rfl⟩ := List.mem_map.1 ha
  exact classesClosed_append (halternatives alternative hmem) rfl

/-- The classes of each alternative are closed if those of the text are. -/
theorem GroupEnds.classesClosed_alternative {s rest : List Char} (h : GroupEnds s rest)
    {group : Group} (hgroup : groupFrom 0 s = some group) :
    ∀ alternative ∈ group.alternatives,
      classesClosed (alternative ++ group.rest) = classesClosed s := by
  rw [h.classesClosed_eq]
  obtain ⟨alternatives, hne, halternatives, rfl⟩ := h
  obtain ⟨a, others, rfl⟩ := List.exists_cons_of_ne_nil hne
  cases (groupFrom_zero_of_spells halternatives rest).symm.trans hgroup
  intro alternative hmem
  obtain ⟨b, hb, rfl⟩ := List.mem_map.1 (show alternative ∈ (a :: others).map Prod.fst from hmem)
  exact classesClosed_append (halternatives b hb) rfl rest

theorem GroupEnds.length_lt {s rest : List Char} (h : GroupEnds s rest) :
    rest.length < s.length := by
  obtain ⟨_, _, _, rfl⟩ := h
  simp only [List.length_append, List.length_cons]
  omega

/-- Induction over texts whose classes are closed, class by class. Behind an opening brace it may go
on from any shorter text, as a group is passed as a whole. -/
@[elab_as_elim]
theorem classesClosed_induction {motive : List Char → Prop} {s : List Char} (nil : motive [])
    (dangling : motive ['\\']) (escaped : ∀ c s, motive s → motive ('\\' :: c :: s))
    (charClass : ∀ text s, classText text = some (text, []) → motive s →
      motive ('[' :: text ++ s))
    (group : ∀ s, classesClosed s = true →
      (∀ t, t.length ≤ s.length → classesClosed t = true → motive t) → motive ('{' :: s))
    (plain : ∀ c s, (c ≠ '\\' ∧ c ≠ '[' ∧ c ≠ '{') → motive s → motive (c :: s))
    (hclasses : classesClosed s = true) : motive s := by
  induction hlength : s.length using Nat.strongRecOn generalizing s with
  | ind n ih =>
    subst hlength
    fun_cases classesClosed s with
    | case1 => exact nil
    | case2 c s =>
      rw [classesClosed] at hclasses
      exact escaped c s (ih s.length (by simp only [List.length_cons]; omega) hclasses rfl)
    | case3 s text after hc =>
      obtain rfl := classText_append hc
      have htext := classText_self hc
      rw [← List.cons_append] at hclasses ⊢
      rw [classesClosed_class htext] at hclasses
      have hshort : after.length < ('[' :: (text ++ after)).length := by
        rw [List.length_cons, List.length_append]
        omega
      exact charClass text after htext (ih after.length hshort hclasses rfl)
    | case4 s hc =>
      rw [classesClosed] at hclasses
      split at hclasses
      · rename_i hsome
        cases hc.symm.trans hsome
      · cases hclasses
    | case5 c s hescape hclass =>
      by_cases hbackslash : c = '\\'
      · subst hbackslash
        cases s with
        | cons d s => exact (hescape d s rfl rfl).elim
        | nil => exact dangling
      · rw [classesClosed_plain ⟨hbackslash, hclass⟩] at hclasses
        by_cases hgroup : c = '{'
        · subst hgroup
          apply group s hclasses
          intro t hshort ht
          exact ih t.length (Nat.lt_succ_of_le hshort) ht rfl
        · exact plain c s ⟨hbackslash, hclass, hgroup⟩ (ih s.length (by simp) hclasses rfl)

/-- Inside a group, either the group ends, or nothing behind ends it, however deep the place is. -/
theorem groupEnds_or_open {s : List Char} (hclasses : classesClosed s = true) :
    (∃ rest, GroupEnds s rest) ∨
      ∀ depth, groupFrom depth s = none ∧ groupsClosed (depth + 1) s = false := by
  refine classesClosed_induction ?nil ?dangling ?escaped ?charClass ?group ?plain hclasses
  case nil => exact Or.inr fun depth => ⟨by rw [groupFrom], by simp [groupsClosed]⟩
  case dangling => exact Or.inr fun depth => ⟨by rw [groupFrom], by simp [groupsClosed]⟩
  case escaped =>
    rintro c s (⟨rest, hends⟩ | hopen)
    · exact Or.inl ⟨rest, hends.append ['\\', c] fun _ _ ht => ⟨_, .escaped ht⟩⟩
    · refine Or.inr fun depth => ⟨?_, ?_⟩
      · rw [groupFrom, (hopen depth).1]
        rfl
      · rw [groupsClosed, (hopen depth).2]
  case charClass =>
    rintro text s htext (⟨rest, hends⟩ | hopen)
    · exact Or.inl ⟨rest, hends.append _ fun _ _ ht => ⟨_, .charClass htext ht⟩⟩
    · refine Or.inr fun depth => ⟨?_, ?_⟩
      · rw [groupFrom_class htext, (hopen depth).1]
        rfl
      · rw [groupsClosed_class htext, (hopen depth).2]
  case group =>
    intro s hs ih
    rcases ih s (Nat.le_refl _) hs with ⟨middle, hends⟩ | hopen
    · have hmiddle : classesClosed middle = true := hends.classesClosed_eq ▸ hs
      rcases ih middle (Nat.le_of_lt hends.length_lt) hmiddle with ⟨rest, houter⟩ | hopen
      · exact Or.inl ⟨rest, hends.nest houter⟩
      · refine Or.inr fun depth => ⟨?_, ?_⟩
        · rw [groupFrom, hends.groupFrom_eq_none depth (hopen depth).1]
          rfl
        · rw [groupsClosed, hends.groupsClosed_eq, (hopen depth).2]
    · refine Or.inr fun depth => ?_
      rw [groupFrom, groupsClosed, (hopen (depth + 1)).1]
      exact ⟨rfl, (hopen (depth + 1)).2⟩
  case plain =>
    intro c s hplain ih
    by_cases hclose : c = '}'
    · subst hclose
      exact Or.inl ⟨s, .brace s⟩
    by_cases hcomma : c = ','
    · subst hcomma
      rcases ih with ⟨rest, hends⟩ | hopen
      · exact Or.inl ⟨rest, hends.comma⟩
      · refine Or.inr fun depth => ?_
        rw [groupsClosed_plain hplain hclose, (hopen depth).2]
        cases depth with
        | zero => simp [groupFrom, hopen]
        | succ depth => simp [groupFrom, hopen]
    · rcases ih with ⟨rest, hends⟩ | hopen
      · exact Or.inl ⟨rest, hends.append [c] fun _ _ ht =>
          ⟨_, .plain hplain (fun _ => ⟨hclose, hcomma⟩) ht⟩⟩
      · refine Or.inr fun depth => ⟨?_, ?_⟩
        · rw [groupFrom_plain hplain ⟨hclose, hcomma⟩, (hopen depth).1]
          rfl
        · rw [groupsClosed_plain hplain hclose, (hopen depth).2]

/-- A glob whose classes are closed has spellings if its groups are closed, and its expansion fails
if they are not. -/
theorem spells_or_open {glob : List Char} (hclasses : classesClosed glob = true) :
    (groupsClosed 0 glob = true ∧ ∃ spelled, Spells false glob spelled) ∨
      (groupsClosed 0 glob = false ∧ spellings glob = none) := by
  refine classesClosed_induction ?nil ?dangling ?escaped ?charClass ?group ?plain hclasses
  case nil => exact Or.inl ⟨by simp [groupsClosed], _, .nil⟩
  case dangling => exact Or.inl ⟨by simp [groupsClosed], _, .dangling⟩
  case escaped =>
    intro c s ih
    rw [groupsClosed]
    rcases ih with ⟨hclosed, spelled, hspelled⟩ | ⟨hopen, hnone⟩
    · exact Or.inl ⟨hclosed, _, .escaped hspelled⟩
    · exact Or.inr ⟨hopen, by rw [spellings, hnone]; rfl⟩
  case charClass =>
    intro text s htext ih
    rw [groupsClosed_class htext]
    rcases ih with ⟨hclosed, spelled, hspelled⟩ | ⟨hopen, hnone⟩
    · exact Or.inl ⟨hclosed, _, .charClass htext hspelled⟩
    · exact Or.inr ⟨hopen, by rw [spellings_class htext, hnone]; rfl⟩
  case group =>
    intro s hs ih
    rw [groupsClosed]
    rcases groupEnds_or_open hs with ⟨rest, hends⟩ | hopen
    · have hrest := ih rest (Nat.le_of_lt hends.length_lt) (hends.classesClosed_eq ▸ hs)
      rw [hends.groupsClosed_eq]
      obtain ⟨alternatives, hne, halternatives, rfl⟩ := hends
      rcases hrest with ⟨hclosed, spelled, hspelled⟩ | ⟨hopen, hnone⟩
      · exact Or.inl ⟨hclosed, _, .group hne halternatives hspelled⟩
      · refine Or.inr ⟨hopen, ?_⟩
        rw [spellings_group hne halternatives fun a ha =>
          spellings_append (halternatives a ha) rest (Or.inl rfl), hnone]
        rfl
    · refine Or.inr ⟨(hopen 0).2, ?_⟩
      rw [spellings]
      split
      · rename_i hsome
        cases (hopen 0).1.symm.trans hsome
      · rfl
  case plain =>
    intro c s hplain ih
    have hclosed : groupsClosed 0 (c :: s) = groupsClosed 0 s := by
      by_cases hclose : c = '}'
      · rw [hclose, groupsClosed]
      · exact groupsClosed_plain hplain hclose
    rw [hclosed, spellings_plain hplain]
    rcases ih with ⟨hclosed, spelled, hspelled⟩ | ⟨hopen, hnone⟩
    · exact Or.inl ⟨hclosed, _, .plain hplain (fun h => absurd h Bool.false_ne_true) hspelled⟩
    · exact Or.inr ⟨hopen, by rw [hnone]; rfl⟩

/-- The expansion of a glob with closed classes is the list of its spellings, in order. -/
theorem spellings_eq_some_iff {glob : List Char} (hclasses : classesClosed glob = true)
    {spelled : List (List Char)} : spellings glob = some spelled ↔ Spells false glob spelled := by
  refine ⟨fun h => ?_, spellings_eq_some⟩
  rcases spells_or_open hclasses with ⟨_, others, hothers⟩ | ⟨_, hnone⟩
  · cases (spellings_eq_some hothers).symm.trans h
    exact hothers
  · cases hnone.symm.trans h

/-- The expansion fails exactly if a group is never closed. -/
theorem spellings_eq_none_iff {glob : List Char} (hclasses : classesClosed glob = true) :
    spellings glob = none ↔ groupsClosed 0 glob = false := by
  rcases spells_or_open hclasses with ⟨hclosed, spelled, hspelled⟩ | ⟨hopen, hnone⟩
  · rw [spellings_eq_some hspelled, hclosed]
    simp
  · exact iff_of_true hnone hopen

theorem classesClosed_of_not_mem {glob : List Char} (h : '[' ∉ glob) :
    classesClosed glob = true := by
  fun_induction classesClosed glob with
  | case1 => rfl
  | case2 _ _ ih => exact ih fun hmem => h (by simp [hmem])
  | case3 => exact absurd List.mem_cons_self h
  | case4 => exact absurd List.mem_cons_self h
  | case5 _ _ _ _ ih => exact ih fun hmem => h (List.mem_cons_of_mem _ hmem)

/-- A glob without opening braces is its only spelling, whether its classes are closed or not. -/
theorem spellings_of_no_group {glob : List Char} (h : '{' ∉ glob) :
    spellings glob = some [glob] := by
  fun_induction spellings glob with
  | case1 => rfl
  | case2 c s ih =>
    rw [ih fun hmem => h (List.mem_cons_of_mem _ (List.mem_cons_of_mem _ hmem))]
    rfl
  | case3 s text rest htext ih =>
    obtain rfl := classText_append htext
    rw [ih fun hmem => h (List.mem_cons_of_mem _ (List.mem_append_right _ hmem))]
    rfl
  | case4 s htext ih =>
    rw [ih fun hmem => h (List.mem_cons_of_mem _ hmem)]
    rfl
  | case5 => exact absurd List.mem_cons_self h
  | case6 => exact absurd List.mem_cons_self h
  | case7 c s _ _ _ ih =>
    rw [ih fun hmem => h (List.mem_cons_of_mem _ hmem)]
    rfl

theorem mem_intercalate_of_mem (separator : List Char) {texts : List (List Char)}
    {text : List Char} (htext : text ∈ texts) {c : Char} (hc : c ∈ text) :
    c ∈ separator.intercalate texts := by
  induction texts with
  | nil => cases htext
  | cons first texts ih =>
    cases texts with
    | nil =>
      rw [List.mem_singleton.1 htext] at hc
      rwa [List.intercalate_singleton]
    | cons second texts =>
      rw [List.intercalate_cons_cons]
      rcases List.mem_cons.1 htext with rfl | htext
      · exact List.mem_append_left _ (List.mem_append_left _ hc)
      · exact List.mem_append_right _ (ih htext)

/-- Spellings are made of the characters of the glob. -/
theorem Spells.mem_of_mem {nested : Bool} {glob : List Char} {spelled : List (List Char)}
    (h : Spells nested glob spelled) {spelling : List Char} (hmem : spelling ∈ spelled) {c : Char}
    (hc : c ∈ spelling) : c ∈ glob := by
  induction h generalizing spelling with
  | nil =>
    rw [List.mem_singleton.1 hmem] at hc
    cases hc
  | plain _ _ _ ih =>
    obtain ⟨rest, hrest, rfl⟩ := List.mem_map.1 hmem
    rcases List.mem_cons.1 hc with rfl | hc
    · exact List.mem_cons_self
    · exact List.mem_cons_of_mem _ (ih hrest hc)
  | escaped _ ih =>
    obtain ⟨rest, hrest, rfl⟩ := List.mem_map.1 hmem
    rcases List.mem_append.1 hc with hc | hc
    · exact List.mem_append.2 (Or.inl hc)
    · exact List.mem_append_right ['\\', _] (ih hrest hc)
  | charClass _ _ ih =>
    obtain ⟨rest, hrest, rfl⟩ := List.mem_map.1 hmem
    rcases List.mem_append.1 hc with hc | hc
    · exact List.mem_append_left _ hc
    · exact List.mem_append_right _ (ih hrest hc)
  | @group _ alternatives s _ _ _ _ ihalternatives ih =>
    simp only [product, List.mem_flatMap, List.mem_map] at hmem
    obtain ⟨first, ⟨alternative, halternative, hfirst⟩, last, hlast, rfl⟩ := hmem
    rcases List.mem_append.1 hc with hc | hc
    · have hmem := ihalternatives alternative halternative hfirst hc
      have hinner := mem_intercalate_of_mem [','] (List.mem_map_of_mem halternative) hmem
      simp [hinner]
    · simp [ih hlast hc]
  | dangling => rwa [List.mem_singleton.1 hmem] at hc

end RouteTable.Glob
