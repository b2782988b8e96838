import RouteTable.Proofs.Exports.Parsers

/-!
What the readers of whole export statements record and how far they get: declarators, decorators,
lists of specifiers, declarations. A statement is left with as many open brackets as it was entered
with, wherever its reader stops.
-/

namespace RouteTable.Exports

open Script

variable {tokens : List Token}

theorem passes_passDeclaratorTail (place : Place) (before : Nat) :
    Passes place (passDeclaratorTail place) before before := by
  have htype := passes_passOptionalType place before
  rw [passDeclaratorTail_eq]
  split
  · rename_i hassign
    have hvalue := (passes_mark hassign (by decide)).trans (passes_passInitializer _ before)
    exact htype.trans hvalue
  · exact htype

theorem meets_declarators {place : Place} (hmem : place.rest ⊆ tokens) :
    Meets tokens (declarators place) fun later => Passes place later.1 0 0 := by
  rw [declarators]
  apply (meets_bindingTarget hmem).bind
  rintro ⟨bound, hbound⟩ hpasses
  have hafter : (passDeclaratorTail bound).remaining < place.remaining :=
    Nat.lt_of_le_of_lt (remaining_passDeclaratorTail_le _) hbound
  have hlt := Nat.lt_of_le_of_lt (Place.remaining_next_le _) hafter
  have htail := hpasses.trans (passes_passDeclaratorTail bound 0)
  dsimp only
  split
  · rename_i hcomma
    have hnext := htail.trans (passes_mark hcomma (by decide))
    apply (meets_declarators (hnext.subset hmem)).bind
    rintro ⟨last, hlast⟩ hlater
    exact meets_pure (hnext.trans hlater)
  · exact meets_pure htail
termination_by place.remaining
decreasing_by
  exact hlt

theorem passes_passMembers (place : Place) (before : Nat) :
    Passes place (passMembers place) before before := by
  fun_induction passMembers place with
  | case1 place hdot hname ih =>
    exact ((passes_mark hdot (by decide)).trans (passes_name hname)).trans ih
  | case2 place => exact .refl place before
  | case3 place => exact .refl place before

theorem meets_passDecorator (place : Place) :
    Meets tokens (passDecorator place) fun later => Passes place later.1 0 0 := by
  rw [passDecorator]
  split
  · rename_i hname
    have hnamed := (passes_name hname).trans (passes_passMembers place.next 0)
    dsimp only
    split
    · rename_i hcall
      exact meets_pure (hnamed.trans (passes_group hcall (by decide) 0))
    · exact meets_pure hnamed
  · exact meets_fail _ _

theorem meets_passDecorators (place : Place) :
    Meets tokens (passDecorators place) fun later => Passes place later.1 0 0 := by
  rw [passDecorators]
  split
  · rename_i hat
    apply (meets_passDecorator place.next).bind
    rintro ⟨after, hafter⟩ hpasses
    have hlt := Nat.lt_trans hafter (Place.remaining_next_lt_of_isPunctuator hat)
    apply (meets_passDecorators after).bind
    rintro ⟨last, hlast⟩ hlater
    exact meets_pure (((passes_mark hat (by decide)).trans hpasses).trans hlater)
  · exact meets_pure (.refl place 0)
termination_by place.remaining
decreasing_by
  exact hlt

theorem meets_moduleExportName {place : Place} (hmem : place.rest ⊆ tokens) :
    Meets tokens (moduleExportName place) fun read =>
      Named tokens read.1 ∧ Passes place read.2.1 0 0 := by
  rw [moduleExportName]
  split
  · rename_i token hf
    split
    · rename_i hkind
      simp only [Bool.or_eq_true, beq_iff_eq] at hkind
      apply meets_pure
      refine ⟨Or.inr ⟨token, mem_of_first? hmem hf, hkind, rfl⟩, ?_⟩
      apply passes_plain hf
      apply notBracket_of_kind
      rcases hkind with hkind | hkind <;> simp [hkind]
    · exact meets_failFound _ _
  · exact meets_failFound _ _

theorem meets_fromClause (place : Place) :
    Meets tokens (fromClause place) fun later => Passes place later.1 0 0 := by
  rw [fromClause]
  split
  · rename_i hfrom
    split
    · rename_i hmodule
      rcases hf : place.next.first? with _ | token
      · simp [hf] at hmodule
      · have hkind : token.kind = .string := by simpa [hf] using hmodule
        have htext : Passes place.next place.next.next 0 0 :=
          passes_plain hf (notBracket_of_kind (by simp [hkind]))
        exact meets_pure ((passes_name (isAnyName_of_isName hfrom)).trans htext)
    · exact meets_fail _ _
  · exact meets_failFound _ _

theorem meets_declaredName (declared : Declared) {place : Place} (hmem : place.rest ⊆ tokens) :
    Meets tokens (declaredName declared place) fun later => Passes place later.1 0 0 := by
  unfold declaredName
  extract_lets start
  have hstart : Passes place start.1 0 0 := by
    unfold start
    split
    · rename_i hstar
      exact passes_mark hstar.2 (by decide)
    · exact .refl place 0
  split
  · rename_i token hf
    refine meets_ite (fun hname => ?_) fun _ => meets_fail _ _
    rw [Bool.and_eq_true] at hname
    apply meets_record_bind (named_of_first? (hstart.subset hmem) hf hname.1)
    exact meets_pure (hstart.trans (passes_name (isAnyName_of_first? hf hname.1)))
  · exact meets_fail _ _

theorem meets_importAlias {place : Place} (hmem : place.rest ⊆ tokens) :
    Meets tokens (importAlias place) fun later => Passes place later.1 0 0 := by
  unfold importAlias
  extract_lets typeOnly start
  have hstart : Passes place start.1 0 0 := by
    unfold start
    split
    · rename_i htype
      rw [Bool.and_eq_true] at htype
      exact passes_name (isAnyName_of_isName htype.1)
    · exact .refl place 0
  split
  · rename_i token hf
    split
    · rename_i hname
      rw [Bool.and_eq_true] at hname
      have hnamed := hstart.trans (passes_name (isAnyName_of_first? hf hname.1))
      have hlater := hnamed.trans (passes_mark hname.2 (by decide))
      split
      · apply meets_record_bind (named_of_first? (hstart.subset hmem) hf hname.1)
        exact meets_pure hlater
      · exact meets_pure hlater
    · exact meets_fail _ _
  · exact meets_fail _ _

theorem meets_exportAll {place : Place} (hmem : place.rest ⊆ tokens) :
    Meets tokens (exportAll place) fun later => Passes place later.1 0 0 := by
  rw [exportAll]
  split
  · rename_i has
    have hnext : Passes place place.next 0 0 := passes_name (isAnyName_of_isName has)
    apply (meets_moduleExportName (hnext.subset hmem)).bind
    rintro ⟨name, after, hafter⟩ ⟨hnamed, hpasses⟩
    apply meets_record_bind hnamed
    apply (meets_fromClause after).bind
    rintro ⟨last, hlast⟩ hlater
    exact meets_pure ((hnext.trans hpasses).trans hlater)
  · exact meets_fromClause place

theorem meets_exportSpecifier (typeOnly : Bool) {place : Place} (hmem : place.rest ⊆ tokens) :
    Meets tokens (exportSpecifier typeOnly place) fun later => Passes place later.1 0 0 := by
  unfold exportSpecifier
  extract_lets modified start
  have hstart : Passes place start.1 0 0 := by
    unfold start
    split
    · rename_i hmodified
      have hboth : isTypeModifier place = true := hmodified
      rw [isTypeModifier, Bool.and_eq_true] at hboth
      exact passes_name (isAnyName_of_isName hboth.1)
    · exact .refl place 0
  apply (meets_moduleExportName (hstart.subset hmem)).bind
  rintro ⟨name, named, hnamed⟩ ⟨hname, hpasses⟩
  have hlocal := hstart.trans hpasses
  dsimp only
  split
  · rename_i has
    have hnext := hlocal.trans (passes_name (isAnyName_of_isName has))
    apply (meets_moduleExportName (hnext.subset hmem)).bind
    rintro ⟨shown, last, hlast⟩ ⟨hshown, hlater⟩
    dsimp only
    split
    · apply meets_record_bind hshown
      exact meets_pure (hnext.trans hlater)
    · exact meets_pure (hnext.trans hlater)
  · split
    · apply meets_record_bind hname
      exact meets_pure hlocal
    · exact meets_pure hlocal

theorem meets_exportSpecifiers (typeOnly : Bool) (opened : Place) {place : Place}
    (hmem : place.rest ⊆ tokens) :
    Meets tokens (exportSpecifiers typeOnly opened place)
      fun later => Passes place later.1 1 0 := by
  rw [exportSpecifiers]
  split
  · rename_i hend
    exact meets_pure (passes_close hend (by decide))
  · split
    · exact meets_fail _ _
    · apply (meets_exportSpecifier typeOnly hmem).bind
      rintro ⟨after, hafter⟩ hspecifier
      have hlt := Nat.lt_of_le_of_lt after.remaining_next_le hafter
      have hinside := hspecifier.within 1
      dsimp only
      split
      · rename_i hcomma
        have hnext := hinside.trans (passes_mark hcomma (by decide))
        apply (meets_exportSpecifiers typeOnly opened (hnext.subset hmem)).bind
        rintro ⟨last, hlast⟩ hlater
        exact meets_pure (hnext.trans hlater)
      · split
        · rename_i hend
          exact meets_pure (hinside.trans (passes_close hend (by decide)))
        · exact meets_failFound _ _
termination_by place.remaining
decreasing_by
  exact hlt

theorem meets_exportClause (typeOnly : Bool) {place : Place} (hmem : place.rest ⊆ tokens)
    (hbrace : place.isPunctuator "\x7b" = true) :
    Meets tokens (exportClause typeOnly place) fun later => Passes place later.1 0 0 := by
  have hopens : Passes place place.next 0 1 := passes_open hbrace (by decide)
  rw [exportClause]
  apply (meets_exportSpecifiers typeOnly place (hopens.subset hmem)).bind
  rintro ⟨listed, hlisted⟩ hspecifiers
  have hlist := hopens.trans hspecifiers
  dsimp only
  split
  · apply (meets_fromClause listed).bind
    rintro ⟨last, hlast⟩ hlater
    exact meets_pure (hlist.trans hlater)
  · exact meets_pure hlist

theorem meets_exportDeclaration (word : String) {place : Place} (hmem : place.rest ⊆ tokens)
    (hword : place.isAnyName = true) :
    Meets tokens (exportDeclaration word place hword) fun later => Passes place later.1 0 0 := by
  have hnext : Passes place place.next 0 0 := passes_name hword
  have hmemNext := hnext.subset hmem
  have htwice : ∀ {name : String}, place.next.isName name = true →
      Passes place place.next.next 0 0 :=
    fun h => hnext.trans (passes_name (isAnyName_of_isName h))
  rw [exportDeclaration]
  -- One case for each word, in the order in which they are asked for.
  refine meets_ite (fun _ => meets_record_bind (Or.inl rfl) (meets_pure hnext)) fun _ => ?_
  refine meets_ite (fun h => ?_) fun _ => ?_
  · rw [Bool.and_eq_true] at h
    exact (meets_exportClause true hmemNext h.2).from hnext fun _ => rfl
  refine meets_ite (fun _ => meets_pure hnext) fun _ => ?_
  refine meets_ite (fun _ => (meets_declaredName _ hmemNext).from hnext fun _ => rfl) fun _ => ?_
  refine meets_ite (fun h => ?_) fun _ => ?_
  · rw [Bool.and_eq_true] at h
    have hlater := htwice h.2
    exact (meets_declaredName _ (hlater.subset hmem)).from hlater fun _ => rfl
  refine meets_ite (fun _ => (meets_declaredName _ hmemNext).from hnext fun _ => rfl) fun _ => ?_
  refine meets_ite (fun h => ?_) fun _ => ?_
  · rw [Bool.and_eq_true] at h
    have hlater := htwice h.2
    exact (meets_declaredName _ (hlater.subset hmem)).from hlater fun _ => rfl
  refine meets_ite (fun _ => (meets_declaredName _ hmemNext).from hnext fun _ => rfl) fun _ => ?_
  refine meets_ite (fun h => ?_) fun _ => ?_
  · rw [Bool.and_eq_true] at h
    exact meets_pure (htwice h.2)
  refine meets_ite (fun _ => (meets_declarators hmemNext).from hnext fun _ => rfl) fun _ => ?_
  refine meets_ite (fun _ => (meets_declaredName _ hmemNext).from hnext fun _ => rfl) fun _ => ?_
  refine meets_ite (fun _ => (meets_importAlias hmemNext).from hnext fun _ => rfl) fun _ => ?_
  exact meets_failFound _ _

/-- A statement's reader goes on with as many open brackets as it started with. -/
theorem meets_readStatement {place : Place} (hmem : place.rest ⊆ tokens) :
    Meets tokens (readStatement place) fun later => Passes place later.1 0 0 := by
  rw [readStatement]
  apply (meets_passDecorators place).bind
  rintro ⟨start, hstart⟩ hpasses
  have hmemStart := hpasses.subset hmem
  dsimp only
  split
  · rename_i hword
    exact (meets_exportDeclaration _ hmemStart hword).from hpasses fun _ => rfl
  refine meets_ite (fun h => ?_) fun _ => ?_
  · exact (meets_exportClause false hmemStart h).from hpasses fun _ => rfl
  refine meets_ite (fun h => ?_) fun _ => ?_
  · have hstar := hpasses.trans (passes_mark h (by decide))
    apply (meets_exportAll (hstar.subset hmem)).bind
    rintro ⟨last, hlast⟩ hlater
    exact meets_pure (hstar.trans hlater)
  split
  · rename_i hassign
    exact meets_pure (hpasses.trans (passes_mark hassign (by decide)))
  exact meets_ite (fun _ => meets_fail _ _) fun _ => meets_failFound _ _

end RouteTable.Exports
