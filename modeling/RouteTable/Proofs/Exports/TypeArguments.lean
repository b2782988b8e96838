import RouteTable.Proofs.Exports.Mirroring
import Mathlib.Algebra.BigOperators.Group.List.Basic
import Mathlib.Algebra.Ring.Int.Defs

/-!
Lists of type arguments: brackets are closed among their tokens, those outside of groups may stand
in a type, and the angle brackets are counted, with those closed at the end that the first one
opens. Looking for the type arguments that start at a place finds such a list if there is one, and
what stands behind it does not count.
-/

namespace RouteTable.Exports

open Script

/-- The tokens outside of groups, with `depth` brackets open in front of them. -/
def outsideFrom : Nat → List Token → List Token
  | _, [] => []
  | depth, token :: rest =>
    if depth = 0 ∧ token.isOpener = false ∧ token.isCloser = false then token :: outsideFrom 0 rest
    else outsideFrom (depthAfter depth token) rest

/-- How many angle brackets a token opens, less those that it closes. -/
def angle (token : Token) : Int :=
  if token.isPunctuator "<" then 1 else -closedAngles token

/-- How many angle brackets are open behind some tokens. Those in groups are not counted. -/
def angles (tokens : List Token) : Int :=
  ((outsideFrom 0 tokens).map angle).sum

/-- Whether a token may stand in type arguments, outside of groups. -/
def isArgumentPart (token : Token) : Bool :=
  !opensStatement token &&
    (token.isPunctuator "<" || closedAngles token != 0 || fitsTypeArguments token)

/-- The end of a list of type arguments, with `depth` angle brackets open before it: the last of
them is closed by the last token, and not before. -/
structure ArgumentsFrom (depth : Nat) (list : List Token) : Prop where
  ne_nil : list ≠ []
  balanced : Balanced list
  parts : ∀ token ∈ outsideFrom 0 list, isArgumentPart token = true
  closed : depth + angles list = 0
  opened : ∀ front back, list = front ++ back → front ≠ [] → back ≠ [] → 0 < depth + angles front

structure IsTypeArguments (list : List Token) : Prop extends ArgumentsFrom 0 list where
  starts : list.head?.any (·.isPunctuator "<") = true

/-- The same token by token: what closes the last of `depth` open angle brackets. -/
inductive ClosesAngles : Nat → List Token → Prop where
  | group {depth : Nat} {opener closer : Token} {inner rest : List Token}
      (hopener : opener.isOpener = true) (hinner : Balanced inner)
      (hcloser : closer.isCloser = true) (h : ClosesAngles depth rest) :
      ClosesAngles depth (opener :: inner ++ closer :: rest)
  | opens {depth : Nat} {token : Token} {rest : List Token}
      (hangle : token.isPunctuator "<" = true) (h : ClosesAngles (depth + 1) rest) :
      ClosesAngles depth (token :: rest)
  | closes {depth : Nat} {token : Token} {rest : List Token} (hangle : closedAngles token ≠ 0)
      (hlt : closedAngles token < depth) (h : ClosesAngles (depth - closedAngles token) rest) :
      ClosesAngles depth (token :: rest)
  | last {token : Token} (hangle : closedAngles token ≠ 0) :
      ClosesAngles (closedAngles token) [token]
  | part {depth : Nat} {token : Token} {rest : List Token}
      (hstatement : opensStatement token = false) (hfits : fitsTypeArguments token = true)
      (h : ClosesAngles depth rest) : ClosesAngles depth (token :: rest)

section Outside

variable {tokens front inner rest : List Token} {opener closer token : Token}

theorem outsideFrom_append (depth : Nat) (front rest : List Token) :
    outsideFrom depth (front ++ rest) =
      outsideFrom depth front ++ outsideFrom (front.foldl depthAfter depth) rest := by
  induction front generalizing depth with
  | nil => rfl
  | cons token front ih =>
    rw [List.cons_append, outsideFrom, outsideFrom, List.foldl_cons]
    split
    · rename_i houtside
      obtain ⟨rfl, hopener, hcloser⟩ := houtside
      rw [depthAfter_plain hopener hcloser, ih, List.cons_append]
    · exact ih _

theorem foldl_depthAfter_of_balanced (h : Balanced tokens) (depth : Nat) :
    tokens.foldl depthAfter depth = depth := by
  induction h generalizing depth with
  | nil => rfl
  | plain hopener hcloser h ih => rw [List.foldl_cons, depthAfter_plain hopener hcloser, ih]
  | group hopener hinner hcloser h ihInner ih =>
    rw [List.cons_append, List.foldl_cons, depthAfter_opener hopener, List.foldl_append, ihInner,
      List.foldl_cons, depthAfter_closer hcloser, Nat.add_sub_cancel, ih]

/-- Nothing between brackets is outside of them. -/
theorem outsideFrom_of_balanced (h : Balanced tokens) (depth : Nat) :
    outsideFrom (depth + 1) tokens = [] := by
  induction h generalizing depth with
  | nil => rfl
  | plain hopener hcloser h ih =>
    rw [outsideFrom, if_neg (by simp), depthAfter_plain hopener hcloser, ih]
  | @group opener closer inner rest hopener hinner hcloser h ihInner ih =>
    rw [List.cons_append, outsideFrom, if_neg (by simp), depthAfter_opener hopener,
      outsideFrom_append, ihInner, foldl_depthAfter_of_balanced hinner, outsideFrom,
      if_neg (by simp), depthAfter_closer hcloser, Nat.add_sub_cancel, ih, List.nil_append]

theorem outsideFrom_plain (hopener : token.isOpener = false) (hcloser : token.isCloser = false)
    (rest : List Token) : outsideFrom 0 (token :: rest) = token :: outsideFrom 0 rest := by
  rw [outsideFrom, if_pos ⟨rfl, hopener, hcloser⟩]

theorem outsideFrom_group (hopener : opener.isOpener = true) (hinner : Balanced inner)
    (hcloser : closer.isCloser = true) (rest : List Token) :
    outsideFrom 0 (opener :: inner ++ closer :: rest) = outsideFrom 0 rest := by
  rw [List.cons_append, outsideFrom, if_neg (by simp [hopener]), depthAfter_opener hopener,
    outsideFrom_append, outsideFrom_of_balanced hinner, foldl_depthAfter_of_balanced hinner,
    outsideFrom, if_neg (by simp), depthAfter_closer hcloser, Nat.add_sub_cancel, List.nil_append]

/-- What a group starts with has nothing outside. -/
theorem outsideFrom_inside (hopener : opener.isOpener = true) (hinner : Balanced inner)
    (hfront : front <+: inner) : outsideFrom 0 (opener :: front) = [] := by
  obtain ⟨back, rfl⟩ := hfront
  have hnone := outsideFrom_of_balanced hinner 0
  rw [outsideFrom_append, List.append_eq_nil_iff] at hnone
  rw [outsideFrom, if_neg (by simp [hopener]), depthAfter_opener hopener]
  exact hnone.1

theorem angles_nil : angles [] = 0 :=
  rfl

theorem angles_plain (hplain : token.isOpener = false ∧ token.isCloser = false)
    (rest : List Token) : angles (token :: rest) = angle token + angles rest := by
  rw [angles, outsideFrom_plain hplain.1 hplain.2, List.map_cons, List.sum_cons, angles]

theorem angles_group (hopener : opener.isOpener = true) (hinner : Balanced inner)
    (hcloser : closer.isCloser = true) (rest : List Token) :
    angles (opener :: inner ++ closer :: rest) = angles rest := by
  rw [angles, outsideFrom_group hopener hinner hcloser, angles]

end Outside

section Parts

variable {token : Token}

theorem notBracket_of_isPunctuator {text : String} (h : token.isPunctuator text = true)
    (htext : text ∉ brackets) : token.isOpener = false ∧ token.isCloser = false := by
  apply notBracket_of_value
  rwa [(kind_of_isPunctuator h).2]

theorem angle_of_opens (h : token.isPunctuator "<" = true) : angle token = 1 :=
  if_pos h

/-- What closes angle brackets does not open one. -/
theorem opens_eq_false_of_closes (h : closedAngles token ≠ 0) :
    token.isPunctuator "<" = false := by
  rw [Bool.eq_false_iff]
  intro hopens
  obtain ⟨-, hvalue⟩ := kind_of_isPunctuator hopens
  rcases (closedAngles_ne_zero h).2 with hcloses | hcloses | hcloses
  all_goals exact absurd (hvalue.symm.trans hcloses) (by decide)

theorem angle_of_closes (h : closedAngles token ≠ 0) : angle token = -closedAngles token :=
  if_neg (by simp [opens_eq_false_of_closes h])

/-- What else may stand in type arguments opens and closes no angle bracket. -/
theorem noAngle_of_fitsTypeArguments (h : fitsTypeArguments token = true) :
    token.isPunctuator "<" = false ∧ closedAngles token = 0 := by
  have hangles : ∀ text ∈ ["<", ">", ">>", ">>>"], token.isPunctuator text = false := by
    intro text htext
    rw [Bool.eq_false_iff]
    intro hmark
    obtain ⟨hkind, rfl⟩ := kind_of_isPunctuator hmark
    have happart : ∀ text ∈ ["<", ">", ">>", ">>>"],
        text ∉ [",", ".", "?.", "|", "&", "?", ":", "=>", "...", "-"] := by
      decide
    simp only [fitsTypeArguments, hkind, List.contains_eq_mem, decide_eq_true_eq] at h
    exact happart _ htext h
  refine ⟨hangles "<" (by simp), ?_⟩
  simp [closedAngles, hangles ">" (by simp), hangles ">>" (by simp), hangles ">>>" (by simp)]

theorem angle_of_fits (h : fitsTypeArguments token = true) : angle token = 0 := by
  obtain ⟨hopens, hcloses⟩ := noAngle_of_fitsTypeArguments h
  rw [angle, if_neg (by simp [hopens]), hcloses]
  rfl

/-- A token that may stand in type arguments opens an angle bracket, closes some, or neither. -/
theorem isArgumentPart_cases (h : isArgumentPart token = true) :
    token.isPunctuator "<" = true ∨ closedAngles token ≠ 0 ∨
      (opensStatement token = false ∧ fitsTypeArguments token = true) := by
  simp only [isArgumentPart, Bool.and_eq_true, Bool.not_eq_true', Bool.or_eq_true, bne_iff_ne] at h
  obtain ⟨hstatement, (hopens | hcloses) | hfits⟩ := h
  · exact .inl hopens
  · exact .inr (.inl hcloses)
  · exact .inr (.inr ⟨hstatement, hfits⟩)

theorem isArgumentPart_of_opens (h : token.isPunctuator "<" = true) :
    isArgumentPart token = true := by
  simp [isArgumentPart, opensStatement_of_punctuator (kind_of_isPunctuator h).1, h]

theorem isArgumentPart_of_closes (h : closedAngles token ≠ 0) : isArgumentPart token = true := by
  simp [isArgumentPart, opensStatement_of_punctuator (closedAngles_ne_zero h).1, h]

theorem isArgumentPart_of_fits (hstatement : opensStatement token = false)
    (hfits : fitsTypeArguments token = true) : isArgumentPart token = true := by
  simp [isArgumentPart, hstatement, hfits]

end Parts

section Counting

variable {depth : Nat} {token opener closer : Token} {list rest inner : List Token}

/-- A token outside of groups takes as many angle brackets as are open before it to those that the
tokens behind it close. -/
theorem argumentsFrom_cons (hplain : token.isOpener = false ∧ token.isCloser = false)
    (hpart : isArgumentPart token = true) {after : Nat}
    (hafter : (after : Int) = depth + angle token) (hpos : 0 < after)
    (h : ArgumentsFrom after rest) : ArgumentsFrom depth (token :: rest) where
  ne_nil := List.cons_ne_nil token rest
  balanced := .plain hplain.1 hplain.2 h.balanced
  parts := by
    intro token' hmem
    rw [outsideFrom_plain hplain.1 hplain.2, List.mem_cons] at hmem
    rcases hmem with rfl | hmem
    · exact hpart
    · exact h.parts token' hmem
  closed := by
    have hclosed := h.closed
    rw [angles_plain hplain]
    omega
  opened := by
    rintro (_ | ⟨first, front⟩) back hlist hfront hback
    · exact absurd rfl hfront
    obtain ⟨rfl, hrest⟩ := List.cons_eq_cons.1 hlist
    rw [angles_plain hplain]
    rcases front with _ | ⟨second, front⟩
    · rw [angles_nil]
      omega
    · have hopened := h.opened (second :: front) back hrest (List.cons_ne_nil _ _) hback
      omega

/-- A group leaves the number of open angle brackets as it is. -/
theorem argumentsFrom_group (hopener : opener.isOpener = true) (hinner : Balanced inner)
    (hcloser : closer.isCloser = true) (hpos : 0 < depth) (h : ArgumentsFrom depth rest) :
    ArgumentsFrom depth (opener :: inner ++ closer :: rest) where
  ne_nil := List.cons_ne_nil _ _
  balanced := .group hopener hinner hcloser h.balanced
  parts := by
    rw [outsideFrom_group hopener hinner hcloser]
    exact h.parts
  closed := by
    rw [angles_group hopener hinner hcloser]
    exact h.closed
  opened := by
    rintro (_ | ⟨first, front⟩) back hlist hfront hback
    · exact absurd rfl hfront
    rw [List.cons_append, List.cons_append, List.cons_eq_cons] at hlist
    obtain ⟨rfl, hlist⟩ := hlist
    rcases List.append_eq_append_iff.1 hlist with ⟨further, hfurther, hbehind⟩ |
      ⟨further, hfurther, -⟩
    · rcases further with _ | ⟨second, further⟩
      · rw [List.append_nil] at hfurther
        rw [angles, hfurther, outsideFrom_inside hopener hinner (List.prefix_refl inner)]
        simpa using hpos
      · rw [List.cons_append, List.cons_eq_cons] at hbehind
        obtain ⟨rfl, hrest⟩ := hbehind
        have hangles : angles (opener :: front) = angles further := by
          rw [hfurther, ← List.cons_append, angles_group hopener hinner hcloser]
        rw [hangles]
        rcases further with _ | ⟨third, further⟩
        · rw [angles_nil]
          omega
        · exact h.opened (third :: further) back hrest (List.cons_ne_nil _ _) hback
    · have hprefix : front <+: inner := ⟨further, hfurther.symm⟩
      rw [angles, outsideFrom_inside hopener hinner hprefix]
      simpa using hpos

/-- What is behind a token outside of groups closes the angle brackets that are open then. -/
theorem ArgumentsFrom.tail (h : ArgumentsFrom depth (token :: rest))
    (hplain : token.isOpener = false ∧ token.isCloser = false) (hbalanced : Balanced rest)
    {after : Nat} (hafter : (after : Int) = depth + angle token) (hne : rest ≠ []) :
    ArgumentsFrom after rest where
  ne_nil := hne
  balanced := hbalanced
  parts := by
    intro token' hmem
    apply h.parts
    rw [outsideFrom_plain hplain.1 hplain.2]
    exact List.mem_cons_of_mem token hmem
  closed := by
    have hclosed := h.closed
    rw [angles_plain hplain] at hclosed
    omega
  opened := by
    intro front back hrest hfront hback
    have hopened := h.opened (token :: front) back (congrArg (token :: ·) hrest)
      (List.cons_ne_nil _ _) hback
    rw [angles_plain hplain] at hopened
    omega

theorem ArgumentsFrom.behindGroup (h : ArgumentsFrom depth (opener :: inner ++ closer :: rest))
    (hopener : opener.isOpener = true) (hinner : Balanced inner)
    (hcloser : closer.isCloser = true) (hbalanced : Balanced rest) (hne : rest ≠ []) :
    ArgumentsFrom depth rest where
  ne_nil := hne
  balanced := hbalanced
  parts := by
    rw [← outsideFrom_group hopener hinner hcloser]
    exact h.parts
  closed := by
    rw [← angles_group hopener hinner hcloser]
    exact h.closed
  opened := by
    intro front back hrest hfront hback
    rw [← angles_group hopener hinner hcloser front]
    refine h.opened _ back ?_ (List.cons_ne_nil _ _) hback
    rw [hrest, List.append_assoc]
    rfl

/-- Counting the angle brackets token by token, and over all of the tokens. -/
theorem argumentsFrom_of_closesAngles (h : ClosesAngles depth list) (hpos : 0 < depth) :
    ArgumentsFrom depth list := by
  induction h with
  | group hopener hinner hcloser h ih =>
    exact argumentsFrom_group hopener hinner hcloser hpos (ih hpos)
  | @opens depth token rest hangle h ih =>
    have hplain := notBracket_of_isPunctuator hangle (by decide)
    refine argumentsFrom_cons hplain (isArgumentPart_of_opens hangle) ?_ (Nat.succ_pos depth)
      (ih (Nat.succ_pos depth))
    rw [angle_of_opens hangle]
    rfl
  | @closes depth token rest hangle hlt h ih =>
    have hopen : 0 < depth - closedAngles token := Nat.sub_pos_of_lt hlt
    refine argumentsFrom_cons (notBracket_of_closedAngles hangle)
      (isArgumentPart_of_closes hangle) ?_ hopen (ih hopen)
    rw [angle_of_closes hangle]
    omega
  | @last token hangle =>
    have hplain := notBracket_of_closedAngles hangle
    refine ⟨List.cons_ne_nil _ _, .plain hplain.1 hplain.2 .nil, ?_, ?_, ?_⟩
    · intro token' hmem
      rw [outsideFrom_plain hplain.1 hplain.2] at hmem
      cases List.mem_singleton.1 hmem
      exact isArgumentPart_of_closes hangle
    · rw [angles_plain hplain, angle_of_closes hangle, angles_nil]
      omega
    · rintro (_ | ⟨first, front⟩) back hlist hfront hback
      · exact absurd rfl hfront
      · rw [List.cons_append, List.cons_eq_cons] at hlist
        exact absurd (List.append_eq_nil_iff.1 hlist.2.symm).2 hback
  | @part depth token rest hstatement hfits h ih =>
    refine argumentsFrom_cons (notBracket_of_fitsTypeArguments hfits)
      (isArgumentPart_of_fits hstatement hfits) ?_ hpos (ih hpos)
    rw [angle_of_fits hfits, Int.add_zero]

theorem closesAngles_of_argumentsFrom (hbalanced : Balanced list) (h : ArgumentsFrom depth list)
    (hpos : 0 < depth) : ClosesAngles depth list := by
  induction hbalanced generalizing depth with
  | nil => exact absurd rfl h.ne_nil
  | @plain token rest hopener hcloser hrest ih =>
    have hplain : token.isOpener = false ∧ token.isCloser = false := ⟨hopener, hcloser⟩
    have hpart : isArgumentPart token = true := by
      apply h.parts
      rw [outsideFrom_plain hopener hcloser]
      exact List.mem_cons_self
    have hclosed := h.closed
    rw [angles_plain hplain] at hclosed
    -- The angle brackets that are open behind the token, where something stands behind it.
    have hopened : rest ≠ [] → 0 < depth + angle token := by
      intro hne
      have hfront := h.opened [token] rest rfl (List.cons_ne_nil _ _) hne
      rwa [angles_plain hplain, angles_nil, Int.add_zero] at hfront
    have hend : rest = [] → depth + angle token = 0 := by
      rintro rfl
      rw [angles_nil] at hclosed
      omega
    rcases isArgumentPart_cases hpart with hopens | hcloses | ⟨hstatement, hfits⟩
    · rw [angle_of_opens hopens] at hopened hend
      have hne : rest ≠ [] := fun hnil => by have := hend hnil; omega
      have hafter : ((depth + 1 : Nat) : Int) = depth + angle token := by
        rw [angle_of_opens hopens]
        rfl
      exact .opens hopens (ih (h.tail hplain hrest hafter hne) (Nat.succ_pos depth))
    · rw [angle_of_closes hcloses] at hopened hend
      by_cases hnil : rest = []
      · subst hnil
        obtain rfl : depth = closedAngles token := by
          have := hend rfl
          omega
        exact .last hcloses
      · have hlt : closedAngles token < depth := by
          have := hopened hnil
          omega
        have hafter : ((depth - closedAngles token : Nat) : Int) = depth + angle token := by
          rw [angle_of_closes hcloses]
          omega
        exact .closes hcloses hlt (ih (h.tail hplain hrest hafter hnil) (Nat.sub_pos_of_lt hlt))
    · rw [angle_of_fits hfits] at hend
      have hne : rest ≠ [] := fun hnil => by have := hend hnil; omega
      have hafter : (depth : Int) = depth + angle token := by
        rw [angle_of_fits hfits]
        omega
      exact .part hstatement hfits (ih (h.tail hplain hrest hafter hne) hpos)
  | @group opener closer inner rest hopener hinner hcloser hrest ihInner ih =>
    have hclosed := h.closed
    rw [angles_group hopener hinner hcloser] at hclosed
    have hne : rest ≠ [] := by
      rintro rfl
      rw [angles_nil] at hclosed
      omega
    exact .group hopener hinner hcloser (ih (h.behindGroup hopener hinner hcloser hrest hne) hpos)

theorem balanced_of_plain (h : Balanced (token :: rest)) (hopener : token.isOpener = false) :
    Balanced rest := by
  cases h with
  | plain _ _ h => exact h
  | group hopens => cases hopens.symm.trans hopener

/-- A list of type arguments is the angle bracket that opens it and what closes that one. -/
theorem isTypeArguments_cons_iff (hangle : token.isPunctuator "<" = true) :
    IsTypeArguments (token :: rest) ↔ ClosesAngles 1 rest := by
  have hplain := notBracket_of_isPunctuator hangle (by decide)
  have hafter : ((1 : Nat) : Int) = (0 : Nat) + angle token := by
    rw [angle_of_opens hangle]
    rfl
  constructor
  · intro h
    have hclosed := h.closed
    rw [angles_plain hplain, angle_of_opens hangle] at hclosed
    have hne : rest ≠ [] := by
      rintro rfl
      rw [angles_nil] at hclosed
      omega
    have hbalanced := balanced_of_plain h.balanced hplain.1
    exact closesAngles_of_argumentsFrom hbalanced (h.tail hplain hbalanced hafter hne) Nat.one_pos
  · intro h
    exact ⟨argumentsFrom_cons hplain (isArgumentPart_of_opens hangle) hafter Nat.one_pos
      (argumentsFrom_of_closesAngles h Nat.one_pos), hangle⟩

/-- A list of type arguments starts with an angle bracket, and what closes that one follows. -/
theorem IsTypeArguments.cases (h : IsTypeArguments list) :
    ∃ token rest, list = token :: rest ∧ token.isPunctuator "<" = true ∧ ClosesAngles 1 rest := by
  obtain _ | ⟨token, rest⟩ := list
  · exact absurd rfl h.ne_nil
  · have hangle : token.isPunctuator "<" = true := h.starts
    exact ⟨token, rest, rfl, hangle, (isTypeArguments_cons_iff hangle).1 h⟩

end Counting

section Recognition

/-- Tokens have a closer that is not opened among them, or a group that starts in front of them is
passed to their end. -/
theorem closer_or_open (tokens : List Token) :
    (∃ inner closer behind, tokens = inner ++ closer :: behind ∧ Balanced inner ∧
      closer.isCloser = true) ∨
    ∀ depth previous, 0 < depth → (passGroupFrom depth previous tokens).rest = [] := by
  induction hn : tokens.length using Nat.strongRecOn generalizing tokens with
  | _ n ih =>
  subst hn
  obtain _ | ⟨token, rest⟩ := tokens
  · exact .inr fun _ _ _ => rfl
  by_cases hcloser : token.isCloser = true
  · exact .inl ⟨[], token, rest, rfl, .nil, hcloser⟩
  by_cases hopener : token.isOpener = true
  · rcases ih _ (Nat.lt_succ_self _) rest rfl with ⟨inner, closer, behind, rfl, hinner, hcloses⟩ |
      hopen
    · have hlt : behind.length < (token :: (inner ++ closer :: behind)).length := by
        rw [List.length_cons, List.length_append, List.length_cons]
        omega
      rcases ih _ hlt behind rfl with ⟨further, last, after, rfl, hfurther, hlast⟩ | hopen
      · refine .inl ⟨token :: inner ++ closer :: further, last, after, ?_,
          .group hopener hinner hcloses hfurther, hlast⟩
        simp
      · refine .inr fun depth previous hdepth => ?_
        have hplain : ¬ closer.isOpener = true := by
          rw [isOpener_of_isCloser hcloses]
          exact Bool.false_ne_true
        rw [passGroupFrom, if_pos hopener, passGroupFrom_balanced hinner (Nat.succ_pos depth),
          passGroupFrom, if_neg hplain, if_pos hcloses, if_neg (by omega)]
        exact hopen _ _ (by omega)
    · refine .inr fun depth previous hdepth => ?_
      rw [passGroupFrom, if_pos hopener]
      exact hopen _ _ (Nat.succ_pos depth)
  · rw [Bool.not_eq_true] at hcloser hopener
    rcases ih _ (Nat.lt_succ_self _) rest rfl with ⟨inner, closer, behind, rfl, hinner, hcloses⟩ |
      hopen
    · exact .inl ⟨token :: inner, closer, behind, rfl, .plain hopener hcloser hinner, hcloses⟩
    · refine .inr fun depth previous hdepth => ?_
      rw [passGroupFrom, if_neg (by simp [hopener]), if_neg (by simp [hcloser])]
      exact hopen _ _ hdepth

variable {place last : Place} {token : Token}

/-- A group that something stands behind is closed. -/
theorem group_of_passGroup (hfirst : place.first? = some token) (hopener : token.isOpener = true)
    (hbehind : (passGroup place).rest ≠ []) :
    ∃ inner closer behind, place.rest = token :: inner ++ closer :: behind ∧ Balanced inner ∧
      closer.isCloser = true ∧ passGroup place = ⟨some closer, behind⟩ := by
  obtain ⟨previous, _ | ⟨first, rest⟩⟩ := place
  · cases hfirst
  cases hfirst
  rcases closer_or_open rest with ⟨inner, closer, behind, rfl, hinner, hcloser⟩ | hopen
  · exact ⟨inner, closer, behind, rfl, hinner, hcloser,
      passGroup_balanced hopener hinner hcloser previous behind⟩
  · rw [passGroup, passGroupFrom, if_pos hopener] at hbehind
    exact absurd (hopen _ _ Nat.one_pos) hbehind

theorem first?_of_typeArgumentsFrom {depth : Nat} (h : typeArgumentsFrom depth place = some last) :
    place.rest ≠ [] := by
  intro hnil
  have hnone : place.first? = none := by rw [Place.first?, hnil]; rfl
  rw [typeArgumentsFrom_of_none hnone] at h
  cases h

theorem typeArgumentsFrom_closes (h : closedAngles token ≠ 0) (depth : Nat)
    (previous : Option Token) (rest : List Token) :
    typeArgumentsFrom depth ⟨previous, token :: rest⟩ =
      if closedAngles token < depth then
        typeArgumentsFrom (depth - closedAngles token) ⟨some token, rest⟩
      else if closedAngles token = depth then some ⟨some token, rest⟩
      else none := by
  have hstatement := opensStatement_of_punctuator (closedAngles_ne_zero h).1
  rw [typeArgumentsFrom_of_first? rfl, if_neg (by simp [hstatement]),
    if_neg (by simp [(notBracket_of_closedAngles h).1]),
    if_neg (by simp [opens_eq_false_of_closes h]), if_pos h]
  rfl

/-- Tokens that close the innermost of the open angle brackets are passed, whatever stands behind
them. With none left open the search ends there. -/
theorem typeArgumentsFrom_append {depth : Nat} {list : List Token} (h : ClosesAngles depth list)
    (outer : Nat) (previous : Option Token) (behind : List Token) :
    typeArgumentsFrom (depth + outer) ⟨previous, list ++ behind⟩ =
      if outer = 0 then some ⟨lastOf previous list, behind⟩
      else typeArgumentsFrom outer ⟨lastOf previous list, behind⟩ := by
  induction h generalizing previous with
  | @group depth opener closer inner rest hopener hinner hcloser h ih =>
    have hgroup := passGroup_balanced hopener hinner hcloser previous (rest ++ behind)
    simp only [List.cons_append, List.append_assoc] at hgroup ⊢
    rw [typeArgumentsFrom_of_first? rfl, if_neg (by simp [opensStatement_of_isOpener hopener]),
      if_pos hopener, hgroup, ih]
    simp only [lastOf_cons, lastOf_append]
  | @opens depth token rest hangle h ih =>
    have hplain := notBracket_of_isPunctuator hangle (by decide)
    have hstatement := opensStatement_of_punctuator (kind_of_isPunctuator hangle).1
    rw [List.cons_append, typeArgumentsFrom_of_first? rfl, if_neg (by simp [hstatement]),
      if_neg (by simp [hplain.1]), if_pos hangle, Nat.add_right_comm, lastOf_cons]
    exact ih (some token)
  | @closes depth token rest hangle hlt h ih =>
    rw [List.cons_append, typeArgumentsFrom_closes hangle, if_pos (by omega),
      Nat.sub_add_comm (Nat.le_of_lt hlt), ih, lastOf_cons]
  | @last token hangle =>
    rw [List.singleton_append, typeArgumentsFrom_closes hangle, Nat.add_sub_cancel_left,
      lastOf_cons, lastOf_nil]
    by_cases houter : outer = 0
    · rw [if_pos houter, if_neg (by omega), if_pos (by omega)]
    · rw [if_neg houter, if_pos (by omega)]
  | @part depth token rest hstatement hfits h ih =>
    obtain ⟨hopens, hcloses⟩ := noAngle_of_fitsTypeArguments hfits
    rw [List.cons_append, typeArgumentsFrom_of_first? rfl, if_neg (by simp [hstatement]),
      if_neg (by simp [(notBracket_of_fitsTypeArguments hfits).1]), if_neg (by simp [hopens]),
      if_neg (by simp [hcloses]), if_pos hfits, lastOf_cons]
    exact ih (some token)

/-- The last of the open angle brackets is closed by the last token. -/
theorem lastOf_closesAngles {depth : Nat} {list : List Token} (h : ClosesAngles depth list)
    (previous : Option Token) :
    ∃ token, lastOf previous list = some token ∧ closedAngles token ≠ 0 := by
  induction h generalizing previous with
  | @group depth opener closer inner rest hopener hinner hcloser h ih =>
    rw [lastOf_append, lastOf_cons]
    exact ih (some closer)
  | @opens depth token rest hangle h ih =>
    rw [lastOf_cons]
    exact ih (some token)
  | @closes depth token rest hangle hlt h ih =>
    rw [lastOf_cons]
    exact ih (some token)
  | @last token hangle => exact ⟨token, rfl, hangle⟩
  | @part depth token rest hstatement hfits h ih =>
    rw [lastOf_cons]
    exact ih (some token)

/-- Type arguments are found where some tokens close the open angle brackets. -/
theorem typeArgumentsFrom_eq_some_iff {depth : Nat} :
    typeArgumentsFrom depth place = some last ↔
      ∃ list behind, ClosesAngles depth list ∧ place.rest = list ++ behind ∧
        last = ⟨lastOf place.previous list, behind⟩ := by
  constructor
  · intro h
    fun_induction typeArgumentsFrom depth place with
    | case1 => cases h
    | case2 => cases h
    | case3 depth place token hf hstatement hopener ih =>
      obtain ⟨inner, closer, behind, hrest, hinner, hcloser, hgroup⟩ :=
        group_of_passGroup hf hopener (first?_of_typeArgumentsFrom h)
      obtain ⟨list, after, hlist, hbehind, hlast⟩ := ih h
      rw [hgroup] at hbehind hlast
      refine ⟨token :: inner ++ closer :: list, after, .group hopener hinner hcloser hlist, ?_, ?_⟩
      · rw [hrest, show behind = list ++ after from hbehind, List.append_assoc]
        rfl
      · rw [hlast, lastOf_append, lastOf_cons]
    | case4 depth place token hf hstatement hopener hangle ih =>
      obtain ⟨list, after, hlist, hbehind, hlast⟩ := ih h
      obtain ⟨hrest, hprevious⟩ := rest_of_first? hf
      refine ⟨token :: list, after, .opens hangle hlist, ?_, ?_⟩
      · rw [hrest, hbehind, List.cons_append]
      · rw [hlast, hprevious, lastOf_cons]
    | case5 depth place token hf hstatement hopener hangle hcloses hlt ih =>
      obtain ⟨list, after, hlist, hbehind, hlast⟩ := ih h
      obtain ⟨hrest, hprevious⟩ := rest_of_first? hf
      refine ⟨token :: list, after, .closes hcloses hlt hlist, ?_, ?_⟩
      · rw [hrest, hbehind, List.cons_append]
      · rw [hlast, hprevious, lastOf_cons]
    | case6 place token hf hstatement hopener hangle hcloses hlt =>
      cases h
      obtain ⟨hrest, hprevious⟩ := rest_of_first? hf
      refine ⟨[token], place.next.rest, .last hcloses, hrest, ?_⟩
      rw [lastOf_cons, lastOf_nil, ← hprevious]
    | case7 => cases h
    | case8 depth place token hf hstatement hopener hangle hcloses hfits ih =>
      obtain ⟨list, after, hlist, hbehind, hlast⟩ := ih h
      obtain ⟨hrest, hprevious⟩ := rest_of_first? hf
      refine ⟨token :: list, after, .part (by simpa using hstatement) hfits hlist, ?_, ?_⟩
      · rw [hrest, hbehind, List.cons_append]
      · rw [hlast, hprevious, lastOf_cons]
    | case9 => cases h
  · rintro ⟨list, behind, hlist, hrest, rfl⟩
    obtain ⟨previous, rest⟩ := place
    obtain rfl : rest = list ++ behind := hrest
    exact typeArgumentsFrom_append hlist 0 previous behind

/-- Behind a name, type arguments are found at an angle bracket just where a list of them starts. -/
theorem typeArguments?_eq_some_iff (hname : place.previous.any Token.isAnyName = true)
    (hangle : place.isPunctuator "<" = true) :
    typeArguments? place = some last ↔
      ∃ list behind, IsTypeArguments list ∧ place.rest = list ++ behind ∧
        last = ⟨lastOf place.previous list, behind⟩ := by
  obtain ⟨token, hfirst, hmark⟩ := exists_first?_of_any hangle
  obtain ⟨hrest, hprevious⟩ := rest_of_first? hfirst
  have hopener := (notBracket_of_isPunctuator hmark (by decide)).1
  have hstatement := opensStatement_of_punctuator (kind_of_isPunctuator hmark).1
  rw [typeArguments?, if_pos hname, typeArgumentsFrom_of_first? hfirst,
    if_neg (by simp [hstatement]), if_neg (by simp [hopener]), if_pos hmark,
    typeArgumentsFrom_eq_some_iff, hprevious, hrest]
  constructor
  · rintro ⟨list, behind, hlist, hbehind, rfl⟩
    refine ⟨token :: list, behind, (isTypeArguments_cons_iff hmark).2 hlist, ?_, ?_⟩
    · rw [hbehind, List.cons_append]
    · rw [lastOf_cons]
  · rintro ⟨_ | ⟨first, list⟩, behind, hlist, hbehind, rfl⟩
    · exact absurd rfl hlist.ne_nil
    · rw [List.cons_append, List.cons_eq_cons] at hbehind
      obtain ⟨rfl, hbehind⟩ := hbehind
      exact ⟨list, behind, (isTypeArguments_cons_iff hmark).1 hlist, hbehind, by rw [lastOf_cons]⟩

theorem typeArguments?_list {list : List Token} (hlist : IsTypeArguments list)
    {previous : Option Token} (hnamed : previous.any Token.isAnyName = true) (rest : List Token) :
    typeArguments? ⟨previous, list ++ rest⟩ = some ⟨lastOf previous list, rest⟩ := by
  obtain ⟨angle, inner, rfl, hangle, -⟩ := hlist.cases
  have hplace : Place.isPunctuator ⟨previous, angle :: inner ++ rest⟩ "<" = true := hangle
  exact (typeArguments?_eq_some_iff hnamed hplace).2 ⟨_, rest, hlist, rfl, rfl⟩

/-- At an angle bracket, the list of type arguments is passed, or the bracket alone. -/
theorem passExpression_angle {ends : Token → Bool} {token : Token} {rest : List Token}
    (hangle : token.isPunctuator "<" = true) (hends : ends token = false)
    (previous : Option Token) :
    passExpression ends ⟨previous, token :: rest⟩ =
      passExpression ends ((typeArguments? ⟨previous, token :: rest⟩).getD ⟨some token, rest⟩) := by
  have hplain := notBracket_of_isPunctuator hangle (by decide)
  rw [passExpression_of_first? rfl, if_neg (by simp [hends]), if_neg (by simp [hplain.1]),
    if_pos hangle]
  rfl

theorem placeAt_append {tokens list behind : List Token} {i : Nat}
    (h : tokens.drop i = list ++ behind) :
    placeAt tokens (i + list.length) = ⟨lastOf (placeAt tokens i).previous list, behind⟩ := by
  rw [placeAt, placeAt, List.take_add, ← List.drop_drop, h, List.take_left, List.drop_left,
    lastOf_append]

/-- The same by the indices of the tokens: what is found leads from the index of the angle bracket
to the end of a list of type arguments. -/
theorem typeArguments?_placeAt_eq_some_iff {tokens : List Token} {i : Nat}
    (hname : (placeAt tokens i).previous.any Token.isAnyName = true)
    (hangle : tokens[i]?.any (·.isPunctuator "<") = true) :
    typeArguments? (placeAt tokens i) = some last ↔
      ∃ e, i ≤ e ∧ e ≤ tokens.length ∧ IsTypeArguments (tokens.extract i e) ∧
        last = placeAt tokens e := by
  have hat : (placeAt tokens i).isPunctuator "<" = true := by
    rwa [isPunctuator_placeAt, ByIndex.isPunctuator]
  rw [typeArguments?_eq_some_iff hname hat]
  constructor
  · rintro ⟨list, behind, hlist, hrest, rfl⟩
    have hrest' : tokens.drop i = list ++ behind := hrest
    have hlength : list.length + behind.length = tokens.length - i := by
      rw [← List.length_append, ← hrest', List.length_drop]
    have hpos := List.length_pos_iff.2 hlist.ne_nil
    refine ⟨i + list.length, Nat.le_add_right _ _, by omega, ?_, ?_⟩
    · rw [List.extract_eq_take_drop, Nat.add_sub_cancel_left, hrest', List.take_left]
      exact hlist
    · rw [placeAt_append hrest']
  · rintro ⟨e, hle, hlength, hlist, rfl⟩
    obtain ⟨n, rfl⟩ := Nat.exists_eq_add_of_le hle
    have hsplit : tokens.drop i = tokens.extract i (i + n) ++ tokens.drop (i + n) := by
      rw [List.extract_eq_take_drop, Nat.add_sub_cancel_left, ← List.drop_drop,
        List.take_append_drop]
    have hn : (tokens.extract i (i + n)).length = n := by
      rw [List.extract_eq_take_drop, Nat.add_sub_cancel_left, List.length_take, List.length_drop]
      omega
    refine ⟨_, _, hlist, hsplit, ?_⟩
    rw [← placeAt_append hsplit, hn]

end Recognition

end RouteTable.Exports
