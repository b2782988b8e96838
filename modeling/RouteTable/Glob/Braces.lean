/-!
Brace groups in globs: the spellings of a glob without groups, one for each choice of alternatives.
Commas and braces in escapes and in closed character classes are literal, and so are commas and
closing braces outside groups.
-/

namespace RouteTable.Glob

/-- Reads the members of a class up to and over its closing bracket: the text read, and the rest. A
bracket in first place is a member, and a class that is not closed is none. -/
def classBody (first : Bool) : List Char → Option (List Char × List Char)
  | [] => none
  | '\\' :: [] => none
  | '\\' :: c :: s => (classBody false s).map fun (text, rest) => ('\\' :: c :: text, rest)
  | c :: s =>
    if c == ']' && !first then some ([c], s)
    else (classBody false s).map fun (text, rest) => (c :: text, rest)

/-- Reads a class after its opening bracket. A mark of negation does not count as a member. -/
def classText : List Char → Option (List Char × List Char)
  | '!' :: s => (classBody true s).map fun (text, rest) => ('!' :: text, rest)
  | '^' :: s => (classBody true s).map fun (text, rest) => ('^' :: text, rest)
  | s => classBody true s

theorem classBody_append {first : Bool} {s text rest : List Char}
    (h : classBody first s = some (text, rest)) : s = text ++ rest := by
  fun_induction classBody first s generalizing text rest with
  | case1 => cases h
  | case2 => cases h
  | case3 first c s ih =>
    obtain ⟨⟨t, r⟩, hr, heq⟩ := Option.map_eq_some_iff.1 h
    cases heq
    simp [ih hr]
  | case4 =>
    cases h
    rfl
  | case5 first c s _ _ hc ih =>
    obtain ⟨⟨t, r⟩, hr, heq⟩ := Option.map_eq_some_iff.1 h
    cases heq
    simp [ih hr]

theorem classText_append {s text rest : List Char} (h : classText s = some (text, rest)) :
    s = text ++ rest := by
  unfold classText at h
  split at h
  · obtain ⟨⟨t, r⟩, hr, heq⟩ := Option.map_eq_some_iff.1 h
    cases heq
    simp [classBody_append hr]
  · obtain ⟨⟨t, r⟩, hr, heq⟩ := Option.map_eq_some_iff.1 h
    cases heq
    simp [classBody_append hr]
  · exact classBody_append h

theorem length_classText_le {s text rest : List Char} (h : classText s = some (text, rest)) :
    rest.length ≤ s.length := by
  rw [classText_append h, List.length_append]
  exact Nat.le_add_left _ _

/-- A group of alternatives, the first of which there always is, and what follows the group. -/
structure Group where
  alternative : List Char
  others : List (List Char)
  rest : List Char

namespace Group

def prepend (text : List Char) (group : Group) : Group :=
  { group with alternative := text ++ group.alternative }

def alternatives (group : Group) : List (List Char) :=
  group.alternative :: group.others

end Group

/-- Reads a group on from a place inside it, `nested` braces deeper than its own. It is none if the
group is not closed. -/
def groupFrom (nested : Nat) (s : List Char) : Option Group :=
  match s with
  | [] => none
  | '\\' :: [] => none
  | '\\' :: c :: s => (groupFrom nested s).map (·.prepend ['\\', c])
  | '[' :: s =>
    match _hc : classText s with
    | some (text, rest) => (groupFrom nested rest).map (·.prepend ('[' :: text))
    | none => (groupFrom nested s).map (·.prepend ['['])
  | '{' :: s => (groupFrom (nested + 1) s).map (·.prepend ['{'])
  | '}' :: s =>
    match nested with
    | 0 => some ⟨[], [], s⟩
    | n + 1 => (groupFrom n s).map (·.prepend ['}'])
  | ',' :: s =>
    if nested = 0 then (groupFrom 0 s).map fun group => ⟨[], group.alternatives, group.rest⟩
    else (groupFrom nested s).map (·.prepend [','])
  | c :: s => (groupFrom nested s).map (·.prepend [c])
termination_by s.length
decreasing_by
  all_goals simp only [List.length_cons]
  all_goals first
    | omega
    | exact Nat.lt_succ_of_le (length_classText_le _hc)

/-- Each alternative of a group, together with what follows the group, is shorter than the text of
the group. -/
theorem length_alternative_lt {nested : Nat} {s : List Char} {group : Group}
    (h : groupFrom nested s = some group) :
    ∀ alternative ∈ group.alternatives, (alternative ++ group.rest).length < s.length := by
  fun_induction groupFrom nested s generalizing group with
  | case1 => cases h
  | case2 => cases h
  | case3 nested c s ih =>
    obtain ⟨g, hg, rfl⟩ := Option.map_eq_some_iff.1 h
    have := ih hg
    simp [Group.alternatives, Group.prepend] at this ⊢
    grind
  | case4 nested s text rest hc ih =>
    obtain ⟨g, hg, rfl⟩ := Option.map_eq_some_iff.1 h
    have := ih hg
    rw [classText_append hc]
    simp [Group.alternatives, Group.prepend] at this ⊢
    grind
  | case5 nested s hc ih =>
    obtain ⟨g, hg, rfl⟩ := Option.map_eq_some_iff.1 h
    have := ih hg
    simp [Group.alternatives, Group.prepend] at this ⊢
    grind
  | case6 nested s ih =>
    obtain ⟨g, hg, rfl⟩ := Option.map_eq_some_iff.1 h
    have := ih hg
    simp [Group.alternatives, Group.prepend] at this ⊢
    grind
  | case7 s =>
    cases h
    simp [Group.alternatives]
  | case8 s n ih =>
    obtain ⟨g, hg, rfl⟩ := Option.map_eq_some_iff.1 h
    have := ih hg
    simp [Group.alternatives, Group.prepend] at this ⊢
    grind
  | case9 s ih =>
    obtain ⟨g, hg, rfl⟩ := Option.map_eq_some_iff.1 h
    have := ih hg
    simp [Group.alternatives] at this ⊢
    grind
  | case10 nested s hn ih =>
    obtain ⟨g, hg, rfl⟩ := Option.map_eq_some_iff.1 h
    have := ih hg
    simp [Group.alternatives, Group.prepend] at this ⊢
    grind
  | case11 nested c s _ _ _ _ _ _ ih =>
    obtain ⟨g, hg, rfl⟩ := Option.map_eq_some_iff.1 h
    have := ih hg
    simp [Group.alternatives, Group.prepend] at this ⊢
    grind

/-- The spellings of a glob without groups, in the order of the alternatives, the first group
counting most. It is none if a group is not closed. -/
def spellings (glob : List Char) : Option (List (List Char)) :=
  match glob with
  | [] => some [[]]
  | '\\' :: c :: s => (spellings s).map (·.map (['\\', c] ++ ·))
  | '[' :: s =>
    match _hc : classText s with
    | some (text, rest) => (spellings rest).map (·.map ('[' :: text ++ ·))
    | none => (spellings s).map (·.map ('[' :: ·))
  | '{' :: s =>
    match _hg : groupFrom 0 s with
    | some group =>
      (group.alternatives.attach.mapM fun alternative =>
        spellings (alternative.1 ++ group.rest)).map List.flatten
    | none => none
  | c :: s => (spellings s).map (·.map (c :: ·))
termination_by glob.length
decreasing_by
  · simp only [List.length_cons]
    omega
  · simpa using Nat.lt_succ_of_le (length_classText_le _hc)
  · simp
  · exact Nat.lt_succ_of_lt (length_alternative_lt _hg alternative.1 alternative.2)
  · simp

end RouteTable.Glob
