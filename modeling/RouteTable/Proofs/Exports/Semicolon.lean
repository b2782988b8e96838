import RouteTable.Proofs.Exports.Agreement
import RouteTable.Proofs.Exports.TopLevel

/-!
Modules one behind another, with a semicolon between them. What scanning reads from the first is the
same as from the first alone, unless a type annotation has an angle bracket open at its end, and
what follows the semicolon is scanned as a module of its own.
-/

namespace RouteTable.Exports

open Script

/-- Where the type annotation behind a pattern starts, if there is one. -/
def annotation? (bound : Place) : Option Place :=
  let asserted := if bound.isPunctuator "!" then bound.next else bound
  if asserted.isPunctuator ":" then some asserted.next else none

/-- The declarators of a list that starts at the first place are read one after another; the second
place is where one of them starts. -/
inductive ReadsDeclarator : Place → Place → Prop where
  | here {place : Place} : ReadsDeclarator place place
  | later {place last : Place} {names : List String} {bound : place.Beyond}
      (htarget : bindingTarget place = ⟨names, .ok bound⟩)
      (hcomma : (passDeclaratorTail bound.1).isPunctuator "," = true)
      (h : ReadsDeclarator (passDeclaratorTail bound.1).next last) : ReadsDeclarator place last

/-- The places that annotations are passed from while a list of declarators is read. -/
def AnnotatedFrom (place start : Place) : Prop :=
  ∃ declarator names, ∃ bound : declarator.Beyond, ReadsDeclarator place declarator ∧
    bindingTarget declarator = ⟨names, .ok bound⟩ ∧ annotation? bound.1 = some start

/-- The places that annotations are passed from while an export statement is read. -/
def AnnotatedIn (place start : Place) : Prop :=
  ∃ word, (passDecorators place).outcome = .ok word ∧ atVariables word.1 = true ∧
    AnnotatedFrom word.1.next start

/-- Whether no annotation that scanning some tokens passes has an angle bracket open at their
end. -/
def AnnotationsClose (tokens : List Token) : Prop :=
  ∀ recorded depth place token start, Reaches tokens recorded depth place →
    place.first? = some token →
      startsExport (depthAfter depth token) place.previous token = true →
        AnnotatedIn place.next start → ¬ LeavesAngleOpen start

section Annotated

variable {place start : Place}

theorem passes_of_annotation? (h : annotation? place = some start) : Passes place start 0 0 := by
  have hasserted : Passes place (if place.isPunctuator "!" then place.next else place) 0 0 := by
    split
    · rename_i hmark
      exact passes_mark hmark (by decide)
    · exact .refl place 0
  unfold annotation? at h
  dsimp only at h
  generalize (if place.isPunctuator "!" then place.next else place) = asserted at hasserted h
  by_cases hcolon : asserted.isPunctuator ":" = true
  · rw [if_pos hcolon, Option.some.injEq] at h
    subst h
    exact hasserted.trans (passes_mark hcolon (by decide))
  · rw [if_neg hcolon] at h
    cases h

theorem passes_of_readsDeclarator {last : Place} (h : ReadsDeclarator place last) :
    Passes place last 0 0 := by
  induction h with
  | here => exact .refl _ 0
  | @later place last names bound htarget hcomma h ih =>
    have hbound :=
      (meets_bindingTarget (List.Subset.refl place.rest)).result bound (by rw [htarget])
    have htail := hbound.trans (passes_passDeclaratorTail bound.1 0)
    exact (htail.trans (passes_mark hcomma (by decide))).trans ih

/-- An annotation that a statement passes starts behind the statement's own start. -/
theorem passes_of_annotatedIn (h : AnnotatedIn place start) : Passes place start 0 0 := by
  obtain ⟨word, hword, hvariables, declarator, names, bound, hreads, htarget, hstart⟩ := h
  have hdecorators := (@meets_passDecorators [] place).result word hword
  have hname := isAnyName_of_atVariables hvariables
  have hbound := (meets_bindingTarget (List.Subset.refl declarator.rest)).result bound
    (by rw [htarget])
  have hlist := (hdecorators.trans (passes_name hname)).trans (passes_of_readsDeclarator hreads)
  exact (hlist.trans hbound).trans (passes_of_annotation? hstart)

instance (place : Place) : Decidable (LeavesAngleOpen place) :=
  inferInstanceAs (Decidable (_ ∧ _))

/-- Annotations close where none of the ends of the tokens leaves an angle bracket open when it is
passed as an annotation. -/
theorem annotationsClose_of_ends {tokens : List Token} (hbalanced : Balanced tokens)
    (h : ∀ i ≤ tokens.length, ¬ LeavesAngleOpen ⟨lastOf none (tokens.take i), tokens.drop i⟩) :
    AnnotationsClose tokens := by
  intro recorded depth place token start hreaches hfirst hexport hannotated
  obtain ⟨⟨passed, htokens, hprevious⟩, -⟩ := closes_of_reaches hbalanced hreaches
  obtain ⟨hrest, hnext⟩ := rest_of_first? hfirst
  obtain ⟨further, hfurther, hlast⟩ := (passes_of_annotatedIn hannotated).tokens
  have hall : tokens = (passed ++ token :: further) ++ start.rest := by
    rw [htokens, hrest, hfurther, List.append_assoc, List.cons_append]
  have hlength : (passed ++ token :: further).length ≤ tokens.length := by
    rw [hall]
    exact (List.prefix_append _ _).length_le
  have hend := h _ hlength
  have hbefore : lastOf none (passed ++ token :: further) = start.previous := by
    rw [hlast, hnext, lastOf_append, lastOf_cons]
  rw [hall, List.take_left, List.drop_left, hbefore] at hend
  exact hend

end Annotated

section Statements

variable {more : List Token} {place place' : Place} {n : Nat}

theorem passDeclaratorTail_followedBy (hmore : StartsWithSemicolon more)
    (h : Closes n place.rest)
    (hclose : ∀ start, annotation? place = some start → ¬ LeavesAngleOpen start) :
    passDeclaratorTail (place.followedBy more) = (passDeclaratorTail place).followedBy more := by
  have hassert : (if (place.followedBy more).isPunctuator "!" then (place.followedBy more).next
      else place.followedBy more) =
        (if place.isPunctuator "!" then place.next else place).followedBy more ∧
      Closes n (if place.isPunctuator "!" then place.next else place).rest := by
    rw [isPunctuator_followedBy hmore (by decide)]
    split
    · rename_i hmark
      exact ⟨next_followedBy_of_any hmark, (passes_mark hmark (by decide)).depth 0 h⟩
    · exact ⟨rfl, h⟩
  unfold annotation? at hclose
  unfold passDeclaratorTail
  dsimp only at hclose ⊢
  rw [hassert.1]
  obtain ⟨-, hasserted⟩ := hassert
  generalize (if place.isPunctuator "!" then place.next else place) = asserted at *
  have htype : (if (asserted.followedBy more).isPunctuator ":" then
      passAnnotatedType 0 (asserted.followedBy more).next else asserted.followedBy more) =
        (if asserted.isPunctuator ":" then passAnnotatedType 0 asserted.next
          else asserted).followedBy more ∧
      Closes n (if asserted.isPunctuator ":" then passAnnotatedType 0 asserted.next
        else asserted).rest := by
    rw [isPunctuator_followedBy hmore (by decide)]
    split
    · rename_i hcolon
      have hnext := (passes_mark hcolon (by decide)).depth 0 hasserted
      have hangles := hclose asserted.next (if_pos hcolon)
      rw [next_followedBy_of_any hcolon, passAnnotatedType_followedBy hmore hnext]
      · exact ⟨rfl, (passes_passAnnotatedType 0 _ n).depth 0 hnext⟩
      · intro hend
        exact Nat.eq_zero_of_not_pos fun hopen => hangles ⟨hend, hopen⟩
    · exact ⟨rfl, hasserted⟩
  rw [htype.1]
  obtain ⟨-, hannotated⟩ := htype
  generalize (if asserted.isPunctuator ":" then passAnnotatedType 0 asserted.next
    else asserted) = annotated at *
  rw [isPunctuator_followedBy hmore (by decide)]
  split
  · rename_i hassign
    have hnext := (passes_mark hassign (by decide)).depth 0 hannotated
    rw [next_followedBy_of_any hassign, passInitializer_followedBy hmore hnext]
  · rfl

theorem goesOn_declarators (hmore : StartsWithSemicolon more) {place place' : Place}
    (hplace : place' = place.followedBy more) (h : Closes n place.rest)
    (hclose : ∀ start, AnnotatedFrom place start → ¬ LeavesAngleOpen start) :
    GoesOn more (declarators place) (declarators place') := by
  subst hplace
  rw [declarators.eq_def place, declarators.eq_def (place.followedBy more)]
  have htarget := goesOn_bindingTarget hmore rfl h
  apply htarget.bind
  rintro ⟨bound, hbound⟩ ⟨_, _⟩ hread rfl
  have hafter : (passDeclaratorTail bound).remaining < place.remaining :=
    Nat.lt_of_le_of_lt (remaining_passDeclaratorTail_le _) hbound
  have hlt := Nat.lt_of_le_of_lt (Place.remaining_next_le _) hafter
  have hscan : bindingTarget place = ⟨(bindingTarget place).reports, .ok ⟨bound, hbound⟩⟩ := by
    rw [← hread]
  have hbehind := closes_of_meets (meets_bindingTarget (List.Subset.refl _)) hread h
  have htail : passDeclaratorTail (bound.followedBy more) =
      (passDeclaratorTail bound).followedBy more := by
    apply passDeclaratorTail_followedBy hmore hbehind
    intro start hstart
    exact hclose start ⟨place, _, _, .here, hscan, hstart⟩
  have hlater := (passes_passDeclaratorTail bound n).depth 0 hbehind
  refine agrees_ite (by rw [htail, isPunctuator_followedBy hmore (by decide)])
    (fun hcomma => ?_) fun _ => agrees_pure htail
  have hnext := (passes_mark hcomma (by decide)).depth 0 hlater
  have hplace := (congrArg Place.next htail).trans (next_followedBy_of_any hcomma)
  have hclose' : ∀ start, AnnotatedFrom (passDeclaratorTail bound).next start →
      ¬ LeavesAngleOpen start := by
    rintro start ⟨declarator, names, last, hreads, hlast⟩
    exact hclose start ⟨declarator, names, last, .later hscan hcomma hreads, hlast⟩
  apply (goesOn_declarators hmore hplace hnext hclose').bind
  rintro ⟨last, hlast⟩ ⟨last', hlast'⟩ _ hend
  exact agrees_pure hend
termination_by place.remaining
decreasing_by
  exact hlt

theorem passMembers_followedBy (hmore : StartsWithSemicolon more) (place : Place) :
    passMembers (place.followedBy more) = (passMembers place).followedBy more := by
  fun_induction passMembers place with
  | case1 place hdot hname ih =>
    rw [passMembers.eq_def, isPunctuator_followedBy hmore (by decide), if_pos hdot,
      next_followedBy_of_any hdot, isAnyName_followedBy hmore, dif_pos hname,
      next_followedBy_of_any hname]
    exact ih
  | case2 place hdot hname =>
    rw [passMembers.eq_def, isPunctuator_followedBy hmore (by decide), if_pos hdot,
      next_followedBy_of_any hdot, isAnyName_followedBy hmore, dif_neg hname]
  | case3 place hdot =>
    rw [passMembers.eq_def, isPunctuator_followedBy hmore (by decide), if_neg hdot]

theorem goesOn_passDecorator (hmore : StartsWithSemicolon more)
    (hplace : place' = place.followedBy more) (h : Closes n place.rest) :
    GoesOn more (passDecorator place) (passDecorator place') := by
  subst hplace
  unfold passDecorator
  refine agrees_dite (by rw [isAnyName_followedBy hmore]) ?_ fun _ _ => agrees_fail _ _ _
  intro hname _
  have hnamed : passMembers (place.followedBy more).next =
      (passMembers place.next).followedBy more := by
    rw [next_followedBy_of_any hname, passMembers_followedBy hmore]
  have hbehind := ((passes_name hname).trans (passes_passMembers place.next n)).depth 0 h
  refine agrees_dite (by rw [hnamed, isPunctuator_followedBy hmore (by decide)]) ?_ ?_
  · intro hcall _
    obtain ⟨token, hfirst, hkind, hvalue⟩ := exists_first?_of_isPunctuator hcall
    have hopener : token.isOpener = true := by
      apply isOpener_of_value hkind
      rw [hvalue]
      decide
    have hgroup : passGroup ((passMembers place.next).followedBy more) =
        (passGroup (passMembers place.next)).followedBy more :=
      passGroup_followedBy hfirst hopener hbehind
    exact agrees_pure ((congrArg passGroup hnamed).trans hgroup)
  · intro _ _
    exact agrees_pure hnamed

theorem goesOn_passDecorators (hmore : StartsWithSemicolon more) {place place' : Place}
    (hplace : place' = place.followedBy more) (h : Closes n place.rest) :
    GoesOn more (passDecorators place) (passDecorators place') := by
  subst hplace
  rw [passDecorators.eq_def place, passDecorators.eq_def (place.followedBy more)]
  refine agrees_dite (by rw [isPunctuator_followedBy hmore (by decide)]) ?_
    fun _ _ => agrees_pure rfl
  intro hat _
  have hnext := (passes_mark hat (by decide)).depth 0 h
  apply (goesOn_passDecorator hmore (next_followedBy_of_any hat) hnext).bind
  rintro ⟨after, hafter⟩ ⟨_, _⟩ hread rfl
  have hlt := Nat.lt_trans hafter (Place.remaining_next_lt_of_isPunctuator hat)
  have hbehind := closes_of_meets (@meets_passDecorator [] _) hread hnext
  apply (goesOn_passDecorators hmore rfl hbehind).bind
  rintro ⟨last, hlast⟩ ⟨last', hlast'⟩ _ hend
  exact agrees_pure hend
termination_by place.remaining
decreasing_by
  exact hlt

theorem goesOn_moduleExportName (hplace : place' = place.followedBy more) :
    Agrees (moduleExportName place) (moduleExportName place') fun read read' =>
      read'.1 = read.1 ∧ read'.2.1 = read.2.1.followedBy more := by
  subst hplace
  obtain ⟨previous, _ | ⟨token, rest⟩⟩ := place
  · unfold moduleExportName
    exact agrees_failFound _ _ _
  · unfold moduleExportName
    dsimp only [Place.first?, Place.followedBy, List.cons_append, List.head?_cons]
    exact agrees_ite Iff.rfl (fun _ => agrees_pure ⟨rfl, rfl⟩) fun _ => agrees_failFound _ _ _

theorem goesOn_fromClause (hmore : StartsWithSemicolon more)
    (hplace : place' = place.followedBy more) :
    GoesOn more (fromClause place) (fromClause place') := by
  subst hplace
  unfold fromClause
  refine agrees_dite (by rw [isName_followedBy hmore]) ?_ fun _ _ => agrees_failFound _ _ _
  intro hfrom _
  have hnext : (place.followedBy more).next = place.next.followedBy more :=
    next_followedBy_of_any hfrom
  have htext : (place.next.followedBy more).first?.any (·.kind == .string) =
      place.next.first?.any (·.kind == .string) := by
    apply any_first?_followedBy hmore
    intro token hmark
    rw [(kind_of_isPunctuator hmark).1]
    rfl
  refine agrees_ite (by rw [hnext, htext]) (fun hmodule => ?_) fun _ => agrees_fail _ _ _
  exact agrees_pure ((congrArg Place.next hnext).trans (next_followedBy_of_any hmodule))

/-- Where a scan depends on what the first token is, and fails where there is none, more tokens
behind do not count. -/
theorem agrees_first {α β : Type} {related : α → β → Prop}
    {found : ∀ token, place.first? = some token → Scan α} {missing : place.first? = none → Scan α}
    {found' : ∀ token, place'.first? = some token → Scan β}
    {missing' : place'.first? = none → Scan β} (hplace : place' = place.followedBy more)
    (hfound : ∀ token h h', Agrees (found token h) (found' token h') related)
    (hmissing : ∀ h scan', Agrees (missing h) scan' related) :
    Agrees (match h : place.first? with
      | some token => found token h
      | none => missing h)
      (match h : place'.first? with
      | some token => found' token h
      | none => missing' h) related := by
  subst hplace
  obtain ⟨previous, _ | ⟨token, rest⟩⟩ := place
  · exact hmissing rfl _
  · exact hfound token rfl rfl

theorem goesOn_declaredName (hmore : StartsWithSemicolon more) (declared : Declared)
    (hplace : place' = place.followedBy more) :
    GoesOn more (declaredName declared place) (declaredName declared place') := by
  subst hplace
  unfold declaredName
  extract_lets start start'
  have hstart : start'.1 = start.1.followedBy more := by
    unfold start start'
    rw [isPunctuator_followedBy hmore (by decide)]
    split
    · rename_i hstar
      exact next_followedBy_of_any hstar.2
    · rfl
  apply agrees_first hstart
  · intro token hfirst _
    have hnext : start'.1.next = start.1.next.followedBy more := by
      rw [hstart, next_followedBy hfirst]
    exact agrees_ite Iff.rfl (fun _ => agrees_record_bind (agrees_pure hnext))
      fun _ => agrees_fail _ _ _
  · intro _ _
    exact agrees_fail _ _ _

theorem goesOn_importAlias (hmore : StartsWithSemicolon more)
    (hplace : place' = place.followedBy more) :
    GoesOn more (importAlias place) (importAlias place') := by
  subst hplace
  unfold importAlias
  have htype : ((place.followedBy more).isName "type" &&
      (place.followedBy more).next.isAnyName) =
        (place.isName "type" && place.next.isAnyName) := by
    rw [isName_followedBy hmore]
    by_cases hname : place.isName "type" = true
    · rw [next_followedBy_of_any hname, isAnyName_followedBy hmore]
    · rw [Bool.not_eq_true] at hname
      rw [hname, Bool.false_and, Bool.false_and]
  extract_lets typeOnly start typeOnly' start'
  have htypeOnly : typeOnly' = typeOnly := htype
  have hstart : start'.1 = start.1.followedBy more := by
    unfold start start'
    rw [htypeOnly]
    split
    · rename_i hmodified
      have hboth : (place.isName "type" && place.next.isAnyName) = true := hmodified
      rw [Bool.and_eq_true] at hboth
      exact next_followedBy_of_any hboth.1
    · rfl
  rw [htypeOnly]
  apply agrees_first hstart
  · intro token hfirst _
    have hnext : start'.1.next = start.1.next.followedBy more := by
      rw [hstart, next_followedBy hfirst]
    refine agrees_ite (by rw [hnext, isPunctuator_followedBy hmore (by decide)])
      (fun hname => ?_) fun _ => agrees_fail _ _ _
    rw [Bool.and_eq_true] at hname
    have hlater := (congrArg Place.next hnext).trans (next_followedBy_of_any hname.2)
    exact agrees_ite Iff.rfl (fun _ => agrees_record_bind (agrees_pure hlater))
      fun _ => agrees_pure hlater
  · intro _ _
    exact agrees_fail _ _ _

theorem goesOn_exportAll (hmore : StartsWithSemicolon more)
    (hplace : place' = place.followedBy more) :
    GoesOn more (exportAll place) (exportAll place') := by
  subst hplace
  unfold exportAll
  refine agrees_ite (by rw [isName_followedBy hmore]) (fun has => ?_)
    fun _ => goesOn_fromClause hmore rfl
  apply (goesOn_moduleExportName (next_followedBy_of_any has)).bind
  rintro ⟨name, after, hafter⟩ ⟨_, _, _⟩ _ ⟨hname, hrest⟩
  dsimp only at hname hrest
  subst hname hrest
  apply agrees_record_bind
  apply (goesOn_fromClause hmore rfl).bind
  rintro ⟨last, hlast⟩ ⟨last', hlast'⟩ _ hend
  exact agrees_pure hend

theorem isTypeModifier_followedBy (hmore : StartsWithSemicolon more) (place : Place) :
    isTypeModifier (place.followedBy more) = isTypeModifier place := by
  rw [isTypeModifier, isTypeModifier, isName_followedBy hmore]
  by_cases hname : place.isName "type" = true
  · rw [next_followedBy_of_any hname]
    rcases hnext : place.next.first? with _ | token
    · obtain ⟨semicolon, hfirst, hmark⟩ := first?_followedBy_of_none hmore hnext
      rw [hfirst]
      simp [Token.isName, (kind_of_isPunctuator hmark).1]
    · rw [first?_followedBy hnext, next_followedBy hnext]
      dsimp only
      rw [isName_followedBy hmore, isPunctuator_followedBy hmore (by decide),
        isPunctuator_followedBy hmore (by decide)]
  · rw [Bool.not_eq_true] at hname
    rw [hname, Bool.false_and, Bool.false_and]

theorem goesOn_exportSpecifier (hmore : StartsWithSemicolon more) (typeOnly : Bool)
    (hplace : place' = place.followedBy more) :
    GoesOn more (exportSpecifier typeOnly place) (exportSpecifier typeOnly place') := by
  subst hplace
  unfold exportSpecifier
  extract_lets modified start modified' start'
  have hmodified : modified' = modified := isTypeModifier_followedBy hmore place
  have hstart : start'.1 = start.1.followedBy more := by
    unfold start start'
    rw [hmodified]
    split
    · rename_i hboth
      have htype : isTypeModifier place = true := hboth
      rw [isTypeModifier, Bool.and_eq_true] at htype
      exact next_followedBy_of_any htype.1
    · rfl
  rw [hmodified]
  apply (goesOn_moduleExportName hstart).bind
  rintro ⟨name, named, hnamed⟩ ⟨_, _, _⟩ _ ⟨hname, hrest⟩
  dsimp only at hname hrest
  subst hname hrest
  refine agrees_ite (by rw [isName_followedBy hmore]) (fun has => ?_) fun _ => ?_
  · apply (goesOn_moduleExportName (next_followedBy_of_any has)).bind
    rintro ⟨shown, last, hlast⟩ ⟨_, _, _⟩ _ ⟨hshown, hlater⟩
    dsimp only at hshown hlater
    subst hshown hlater
    exact agrees_ite Iff.rfl (fun _ => agrees_record_bind (agrees_pure rfl))
      fun _ => agrees_pure rfl
  · exact agrees_ite Iff.rfl (fun _ => agrees_record_bind (agrees_pure rfl))
      fun _ => agrees_pure rfl

theorem goesOn_exportSpecifiers (hmore : StartsWithSemicolon more) (typeOnly : Bool)
    (opened opened' : Place) {place place' : Place} (hplace : place' = place.followedBy more) :
    GoesOn more (exportSpecifiers typeOnly opened place)
      (exportSpecifiers typeOnly opened' place') := by
  subst hplace
  rw [exportSpecifiers.eq_def typeOnly opened place,
    exportSpecifiers.eq_def typeOnly opened' (place.followedBy more)]
  refine agrees_dite (by rw [isPunctuator_followedBy hmore (by decide)]) ?_ ?_
  · intro hend _
    exact agrees_pure (next_followedBy_of_any hend)
  · intro _ _
    rcases hfirst : place.first? with _ | token
    · exact agrees_fail _ _ _
    · rw [first?_followedBy hfirst]
      apply (goesOn_exportSpecifier hmore typeOnly rfl).bind
      rintro ⟨after, hafter⟩ ⟨_, _⟩ _ rfl
      have hlt := Nat.lt_of_le_of_lt after.remaining_next_le hafter
      refine agrees_ite (by rw [isPunctuator_followedBy hmore (by decide)]) (fun hcomma => ?_)
        fun _ => ?_
      · apply (goesOn_exportSpecifiers hmore typeOnly opened opened'
          (next_followedBy_of_any hcomma)).bind
        rintro ⟨last, hlast⟩ ⟨last', hlast'⟩ _ hend
        exact agrees_pure hend
      · refine agrees_ite (by rw [isPunctuator_followedBy hmore (by decide)]) (fun hend => ?_)
          fun _ => agrees_failFound _ _ _
        exact agrees_pure (next_followedBy_of_any hend)
termination_by place.remaining
decreasing_by
  exact hlt

theorem goesOn_exportClause (hmore : StartsWithSemicolon more) (typeOnly : Bool)
    (hbrace : place.isPunctuator "\x7b" = true) (hplace : place' = place.followedBy more) :
    GoesOn more (exportClause typeOnly place) (exportClause typeOnly place') := by
  subst hplace
  unfold exportClause
  apply (goesOn_exportSpecifiers hmore typeOnly place _ (next_followedBy_of_any hbrace)).bind
  rintro ⟨listed, hlisted⟩ ⟨_, _⟩ _ rfl
  refine agrees_ite (by rw [isName_followedBy hmore]) (fun _ => ?_) fun _ => agrees_pure rfl
  apply (goesOn_fromClause hmore rfl).bind
  rintro ⟨last, hlast⟩ ⟨last', hlast'⟩ _ hend
  exact agrees_pure hend

theorem isName_of_isAnyName (h : place.isAnyName = true) :
    place.isName ((place.first?.map Token.value).getD "") = true := by
  obtain ⟨token, hfirst, hname⟩ := exists_first?_of_any h
  rw [Place.isName, hfirst]
  simpa [Token.isName, Token.isAnyName] using hname

theorem atVariables_of_isName {word : String} (hname : place.isName word = true)
    (henum : ¬ (word == "const" && place.next.isName "enum") = true)
    (hmem : ["const", "let", "var"].contains word = true) : atVariables place = true := by
  simp only [List.contains_cons, List.contains_nil, Bool.or_eq_true, beq_iff_eq, Bool.or_false]
    at hmem
  simp only [atVariables, Bool.or_eq_true, Bool.and_eq_true, Bool.not_eq_true']
  rcases hmem with rfl | rfl | rfl
  · simp only [beq_self_eq_true, Bool.true_and, Bool.not_eq_true] at henum
    exact .inl (.inl ⟨hname, henum⟩)
  · exact .inl (.inr hname)
  · exact .inr hname

theorem goesOn_exportDeclaration (hmore : StartsWithSemicolon more) {word : String}
    (hname : place.isName word = true) (hword : place.isAnyName = true)
    (hword' : place'.isAnyName = true) (hplace : place' = place.followedBy more)
    (h : Closes n place.rest)
    (hclose : atVariables place = true →
      ∀ start, AnnotatedFrom place.next start → ¬ LeavesAngleOpen start) :
    GoesOn more (exportDeclaration word place hword) (exportDeclaration word place' hword') := by
  subst hplace
  have hnext : (place.followedBy more).next = place.next.followedBy more :=
    next_followedBy_of_any hword
  have hafter := (passes_name hword).depth 0 h
  have htwice : ∀ {name : String}, place.next.isName name = true →
      (place.followedBy more).next.next = place.next.next.followedBy more := by
    intro name hlater
    rw [hnext]
    exact next_followedBy_of_any hlater
  have hmarked : ∀ {text : String}, text ≠ ";" →
      (place.followedBy more).next.isPunctuator text = place.next.isPunctuator text := by
    intro text htext
    rw [hnext, isPunctuator_followedBy hmore htext]
  have hnamed : ∀ name, (place.followedBy more).next.isName name = place.next.isName name := by
    intro name
    rw [hnext, isName_followedBy hmore]
  unfold exportDeclaration
  -- One case for each word, in the order in which they are asked for.
  refine agrees_ite Iff.rfl (fun _ => agrees_record_bind (agrees_pure hnext)) fun _ => ?_
  refine agrees_ite (by rw [hmarked (by decide)]) (fun hboth => ?_) fun _ => ?_
  · rw [Bool.and_eq_true] at hboth
    exact (goesOn_exportClause hmore true hboth.2 hnext).map fun _ _ hlater => hlater
  refine agrees_ite Iff.rfl (fun _ => agrees_pure hnext) fun _ => ?_
  refine agrees_ite Iff.rfl
    (fun _ => (goesOn_declaredName hmore _ hnext).map fun _ _ hlater => hlater) fun _ => ?_
  refine agrees_ite (by rw [hnamed]) (fun hboth => ?_) fun _ => ?_
  · rw [Bool.and_eq_true] at hboth
    exact (goesOn_declaredName hmore _ (htwice hboth.2)).map fun _ _ hlater => hlater
  refine agrees_ite Iff.rfl
    (fun _ => (goesOn_declaredName hmore _ hnext).map fun _ _ hlater => hlater) fun _ => ?_
  refine agrees_ite (by rw [hnamed]) (fun hboth => ?_) fun _ => ?_
  · rw [Bool.and_eq_true] at hboth
    exact (goesOn_declaredName hmore _ (htwice hboth.2)).map fun _ _ hlater => hlater
  refine agrees_ite Iff.rfl
    (fun _ => (goesOn_declaredName hmore _ hnext).map fun _ _ hlater => hlater) fun _ => ?_
  refine agrees_ite (by rw [hnamed]) (fun hboth => ?_) fun henum => ?_
  · rw [Bool.and_eq_true] at hboth
    exact agrees_pure (htwice hboth.2)
  refine agrees_ite Iff.rfl (fun hmem => ?_) fun _ => ?_
  · have hlast := hclose (atVariables_of_isName hname henum hmem)
    exact (goesOn_declarators hmore hnext hafter hlast).map fun _ _ hlater => hlater
  refine agrees_ite (by rw [hnext, isAnyName_followedBy hmore])
    (fun _ => (goesOn_declaredName hmore _ hnext).map fun _ _ hlater => hlater) fun _ => ?_
  refine agrees_ite Iff.rfl
    (fun _ => (goesOn_importAlias hmore hnext).map fun _ _ hlater => hlater) fun _ => ?_
  exact agrees_failFound _ _ _

/-- A statement is read as it is with a semicolon and more tokens behind, unless one of its
annotations has an angle bracket open at the end. -/
theorem goesOn_readStatement (hmore : StartsWithSemicolon more)
    (hplace : place' = place.followedBy more) (h : Closes n place.rest)
    (hclose : ∀ start, AnnotatedIn place start → ¬ LeavesAngleOpen start) :
    GoesOn more (readStatement place) (readStatement place') := by
  unfold readStatement
  apply (goesOn_passDecorators hmore hplace h).bind
  rintro ⟨start, hstart⟩ ⟨_, _⟩ hread rfl
  have hafter := closes_of_meets (@meets_passDecorators [] _) hread h
  refine agrees_dite (by rw [isAnyName_followedBy hmore]) (fun hword _ => ?_) fun _ _ => ?_
  · have hvalue : (start.followedBy more).first? = start.first? := by
      obtain ⟨token, hfirst, -⟩ := exists_first?_of_any hword
      rw [first?_followedBy hfirst, hfirst]
    have hlast : atVariables start = true →
        ∀ type, AnnotatedFrom start.next type → ¬ LeavesAngleOpen type :=
      fun hvariables type htype => hclose type ⟨_, hread, hvariables, htype⟩
    dsimp only
    rw [hvalue]
    exact (goesOn_exportDeclaration hmore (isName_of_isAnyName hword) hword _ rfl hafter
      hlast).map fun _ _ hlater => hlater
  refine agrees_ite (by rw [isPunctuator_followedBy hmore (by decide)]) (fun hbrace => ?_)
    fun _ => ?_
  · exact (goesOn_exportClause hmore false hbrace rfl).map fun _ _ hlater => hlater
  refine agrees_ite (by rw [isPunctuator_followedBy hmore (by decide)]) (fun hstar => ?_)
    fun _ => ?_
  · apply (goesOn_exportAll hmore (next_followedBy_of_any hstar)).bind
    rintro ⟨last, hlast⟩ ⟨_, _⟩ _ hend
    exact agrees_pure hend
  refine agrees_dite (by rw [isPunctuator_followedBy hmore (by decide)]) (fun hassign _ => ?_)
    fun _ _ => ?_
  · exact agrees_pure (next_followedBy_of_any hassign)
  rcases hfirst : start.first? with _ | token
  · exact agrees_fail _ _ _
  · rw [first?_followedBy hfirst]
    exact agrees_failFound _ _ _

end Statements

end RouteTable.Exports
