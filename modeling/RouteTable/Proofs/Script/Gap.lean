import RouteTable.Proofs.Script.Passage

/-!
What stands between the tokens of a script: spacing, and comments that end where they have to, a
line comment at the end of its line or of the text and a block comment at its first `*/`.
-/

namespace RouteTable.Script

open Cursor

/-- Whether a text in front of another one consists of spacing and comments. -/
inductive IsGap (rest : List Char) : List Char → Prop where
  | nil : IsGap rest []
  | space {c : Char} {gap : List Char} (hc : isSpacing c = true) (h : IsGap rest gap) :
      IsGap rest (c :: gap)
  | lineComment {body gap : List Char} (hbody : body.all (!isLineTerminator ·) = true)
      (hend : (gap ++ rest).head?.all isLineTerminator = true) (h : IsGap rest gap) :
      IsGap rest ('/' :: '/' :: (body ++ gap))
  | blockComment {body gap : List Char} (hbody : ¬ ['*', '/'] <:+: body) (h : IsGap rest gap) :
      IsGap rest ('/' :: '*' :: (body ++ '*' :: '/' :: gap))

/-- The line that a text starts with for the interpreter of the script, if there is one. -/
def interpreterLine (source : List Char) : List Char :=
  if ['#', '!'].isPrefixOf source then source.takeWhile (!isLineTerminator ·) else []

theorem leads_skipInterpreterLine (cursor : Cursor) :
    cursor.Leads (interpreterLine cursor.rest) (skipInterpreterLine cursor) := by
  rw [interpreterLine, skipInterpreterLine, startsWith]
  split
  · exact leads_skipWhile _ cursor
  · exact .refl cursor

theorem leads_of_blockComment {opened p : Position} {lineEnded : Bool} {s : List Char}
    {result : Bool × Cursor} (h : blockComment opened lineEnded p s = .ok result) :
    ∃ body, ¬ ['*', '/'] <:+: body ∧ Leads ⟨p, s⟩ (body ++ ['*', '/']) result.2 ∧
      result.1 = (lineEnded || body.any isLineTerminator) := by
  induction s generalizing lineEnded p with
  | nil => cases h
  | cons c s ih =>
    rw [blockComment] at h
    split at h
    · rename_i hend
      cases h
      obtain ⟨tail, htail⟩ := List.isPrefixOf_iff_prefix.1 hend
      refine ⟨[], by simp, ?_, by simp⟩
      have hleads := leads_advance 2 ⟨p, c :: s⟩
      dsimp only at hleads
      rwa [← htail] at hleads ⊢
    · rename_i hapart
      obtain ⟨body, hbody, hleads, hended⟩ := ih h
      refine ⟨c :: body, ?_, .cons hleads, ?_⟩
      · rw [List.infix_cons_iff, not_or]
        refine ⟨fun hprefix => hapart ?_, hbody⟩
        have hrest : c :: s = (c :: body) ++ (['*', '/'] ++ result.2.rest) := by
          rw [List.cons_append, ← List.append_assoc]
          exact congrArg (c :: ·) hleads.rest
        rw [List.isPrefixOf_iff_prefix, hrest]
        exact hprefix.trans (List.prefix_append _ _)
      · rw [hended, List.any_cons, Bool.or_assoc]

theorem leads_of_lineComment {cursor : Cursor} (hline : cursor.startsWith ['/', '/'] = true) :
    ∃ body, body.all (!isLineTerminator ·) = true ∧
      cursor.Leads ('/' :: '/' :: body) (cursor.skipWhile (!isLineTerminator ·)) ∧
      (cursor.skipWhile (!isLineTerminator ·)).rest.head?.all isLineTerminator = true := by
  obtain ⟨further, hfurther⟩ := List.isPrefixOf_iff_prefix.1 hline
  have htaken : cursor.takeWhile (!isLineTerminator ·) =
      '/' :: '/' :: further.takeWhile (!isLineTerminator ·) := by
    rw [takeWhile, ← hfurther]
    rfl
  refine ⟨further.takeWhile (!isLineTerminator ·), List.all_takeWhile, ?_, ?_⟩
  · rw [← htaken]
    exact leads_skipWhile _ cursor
  · have hbehind := List.head?_dropWhile_not (!isLineTerminator ·) cursor.rest
    rw [rest_skipWhile]
    rcases hhead : (cursor.rest.dropWhile (!isLineTerminator ·)).head? with _ | d
    · rfl
    · rw [hhead] at hbehind
      simpa using hbehind

/-- No line ends in a line comment. -/
theorem any_lineComment {body : List Char} (hbody : body.all (!isLineTerminator ·) = true)
    (gap : List Char) :
    ('/' :: '/' :: (body ++ gap)).any isLineTerminator = gap.any isLineTerminator := by
  have hmark : isLineTerminator '/' = false := by decide
  have hnone : body.any isLineTerminator = false := by
    rw [List.any_eq_not_all_not, hbody]
    rfl
  simp [hmark, hnone]

/-- Passing spacing is passing a gap, and no spacing stands behind it. -/
theorem leads_of_skipSpacing {lineEnded : Bool} {cursor : Cursor} {result : Bool × Cursor}
    (h : skipSpacing lineEnded cursor = .ok result) :
    ∃ gap, IsGap result.2.rest gap ∧ cursor.Leads gap result.2 ∧
      result.1 = (lineEnded || gap.any isLineTerminator) ∧
        result.2.rest.head?.any isSpacing = false := by
  fun_induction skipSpacing lineEnded cursor with
  | case1 lineEnded cursor hs =>
    cases h
    refine ⟨[], .nil, .refl cursor, by simp, ?_⟩
    rw [hs]
    rfl
  | case2 lineEnded cursor c s hs hc ih =>
    obtain ⟨gap, hgap, hleads, hended, hbehind⟩ := ih h
    obtain ⟨p, rest⟩ := cursor
    obtain rfl : rest = c :: s := hs
    refine ⟨c :: gap, .space hc hgap, .cons hleads, ?_, hbehind⟩
    rw [hended, List.any_cons, Bool.or_assoc]
  | case3 lineEnded cursor c s hs hc hline ih =>
    obtain ⟨gap, hgap, hleads, hended, hbehind⟩ := ih h
    obtain ⟨body, hbody, hcomment, hend⟩ := leads_of_lineComment hline
    rw [hleads.rest] at hend
    refine ⟨'/' :: '/' :: (body ++ gap), .lineComment hbody hend hgap, hcomment.trans hleads, ?_,
      hbehind⟩
    rw [hended, any_lineComment hbody]
  | case4 lineEnded cursor c s hs hc hline hblock ended after hcomment ih =>
    obtain ⟨gap, hgap, hleads, hended, hbehind⟩ := ih h
    obtain ⟨body, hbody, hbodyLeads, hbodyEnded⟩ := leads_of_blockComment hcomment
    obtain ⟨p, rest⟩ := cursor
    obtain ⟨further, hfurther⟩ := List.isPrefixOf_iff_prefix.1 hblock
    obtain rfl : rest = '/' :: '*' :: further := hfurther.symm
    cases hs
    have hopens : Leads ⟨p, '/' :: '*' :: further⟩ ['/', '*']
        (Cursor.advance 2 ⟨p, '/' :: '*' :: further⟩) := leads_advance 2 _
    refine ⟨'/' :: '*' :: (body ++ '*' :: '/' :: gap), .blockComment hbody hgap, ?_, ?_, hbehind⟩
    · have hall := (hopens.trans hbodyLeads).trans hleads
      rwa [List.append_assoc, List.append_assoc] at hall
    · have hopened : ended = (lineEnded || body.any isLineTerminator) := hbodyEnded
      rw [hended, hopened, any_blockComment, Bool.or_assoc]
  | case5 => cases h
  | case6 lineEnded cursor c s hs hc =>
    cases h
    refine ⟨[], .nil, .refl cursor, by simp, ?_⟩
    rw [hs]
    simpa using hc

/-- Of the text behind a gap, only the first character matters. -/
theorem IsGap.of_head? {gap rest rest' : List Char} (h : IsGap rest gap)
    (hhead : rest'.head? = rest.head?) : IsGap rest' gap := by
  induction h with
  | nil => exact .nil
  | space hc _ ih => exact .space hc ih
  | @lineComment body gap hbody hend _ ih =>
    refine .lineComment hbody ?_ ih
    rcases gap with _ | ⟨c, gap⟩
    · rwa [List.nil_append, hhead]
    · exact hend
  | blockComment hbody _ ih => exact .blockComment hbody ih

/-- A gap up to another one is a gap together with that. -/
theorem IsGap.append {first second rest : List Char} (h : IsGap (second ++ rest) first)
    (h' : IsGap rest second) : IsGap rest (first ++ second) := by
  induction h with
  | nil => exact h'
  | space hc _ ih => exact .space hc ih
  | @lineComment body gap hbody hend _ ih =>
    have hparts : '/' :: '/' :: (body ++ gap) ++ second =
        '/' :: '/' :: (body ++ (gap ++ second)) := by
      simp
    rw [← List.append_assoc] at hend
    rw [hparts]
    exact .lineComment hbody hend ih
  | @blockComment body gap hbody _ ih =>
    have hparts : '/' :: '*' :: (body ++ '*' :: '/' :: gap) ++ second =
        '/' :: '*' :: (body ++ '*' :: '/' :: (gap ++ second)) := by
      simp
    rw [hparts]
    exact .blockComment hbody ih

/-- A line comment is passed up to the end of its line or of the text. -/
theorem rest_skipWhile_lineComment {body rest : List Char}
    (hbody : body.all (!isLineTerminator ·) = true)
    (hend : rest.head?.all isLineTerminator = true) (p : Position) :
    (skipWhile (!isLineTerminator ·) ⟨p, '/' :: '/' :: (body ++ rest)⟩).rest = rest := by
  have hline : ∀ c ∈ '/' :: '/' :: body, (!isLineTerminator c) = true := by
    have hmark : (!isLineTerminator '/') = true := by decide
    exact List.forall_mem_cons.2 ⟨hmark, List.forall_mem_cons.2 ⟨hmark, List.all_eq_true.1 hbody⟩⟩
  rw [rest_skipWhile, ← List.cons_append, ← List.cons_append, List.dropWhile_append_of_pos hline]
  rcases rest with _ | ⟨c, s⟩
  · rfl
  · exact List.dropWhile_cons_of_neg (by simpa using hend)

/-- A gap is passed up to its end. -/
theorem skipSpacing_of_isGap {gap rest : List Char} (h : IsGap rest gap) (ended : Bool)
    (p : Position) :
    ∃ q, skipSpacing ended ⟨p, gap ++ rest⟩ =
      skipSpacing (ended || gap.any isLineTerminator) ⟨q, rest⟩ := by
  induction h generalizing ended p with
  | nil => exact ⟨p, by simp⟩
  | @space c gap hc _ ih =>
    obtain ⟨q, hq⟩ := ih (ended || isLineTerminator c) (p.step c (gap ++ rest))
    refine ⟨q, ?_⟩
    rw [List.cons_append, skipSpacing_space hc, List.any_cons, ← Bool.or_assoc, ← hq]
    rfl
  | @lineComment body gap hbody hend _ ih =>
    have hskip := rest_skipWhile_lineComment hbody hend p
    obtain ⟨q, hq⟩ := ih ended (skipWhile (!isLineTerminator ·)
      ⟨p, '/' :: '/' :: (body ++ (gap ++ rest))⟩).position
    refine ⟨q, ?_⟩
    rw [any_lineComment hbody, ← hq, ← eq_of_rest hskip, List.cons_append, List.cons_append,
      List.append_assoc, skipSpacing_lineComment (by simp [startsWith, List.isPrefixOf])]
  | @blockComment body gap hbody _ ih =>
    obtain ⟨r, hr⟩ := advance_append p ('/' :: '*' :: body ++ ['*', '/']) (gap ++ rest)
    obtain ⟨q, hq⟩ := ih (ended || body.any isLineTerminator) r
    have hcomment := skipSpacing_comment hbody ended p (gap ++ rest)
    have hlength : ('/' :: '*' :: body ++ ['*', '/']).length = body.length + 4 := by simp
    have hparts : '/' :: '*' :: body ++ ['*', '/'] ++ (gap ++ rest) =
        '/' :: '*' :: body ++ '*' :: '/' :: (gap ++ rest) := by
      simp
    have htext : '/' :: '*' :: (body ++ '*' :: '/' :: gap) ++ rest =
        '/' :: '*' :: body ++ '*' :: '/' :: (gap ++ rest) := by
      simp
    rw [hlength, hparts] at hr
    rw [hr] at hcomment
    refine ⟨q, ?_⟩
    rw [htext, hcomment, hq, any_blockComment, Bool.or_assoc]

end RouteTable.Script
