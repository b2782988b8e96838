import RouteTable.Proofs.Exports.Beginning

/-!
Statements of tokens that begin alike. Like the declarators, a statement that ends in front of the
token is read alike in both lists. So the scans come to the same places up to there, with the same
names recorded.
-/

namespace RouteTable.Exports

open Script

namespace ByIndex

section Statements

variable {bound i : Nat} {tokens tokens' : List Token}

theorem keeps_skipMembers (h : BeginAlike bound tokens tokens') (steps i : Nat) :
    Keeps bound i (skipMembers tokens steps i) (skipMembers tokens' steps i) := by
  induction steps generalizing i with
  | zero => exact keeps_error _
  | succ steps ih =>
    have hmember : i ≤ bound → (isPunctuator tokens' i "." && isAnyName tokens' (i + 1)) =
        (isPunctuator tokens i "." && isAnyName tokens (i + 1)) := by
      intro hi
      rw [isPunctuator_alike h hi]
      cases hpoint : isPunctuator tokens i "." with
      | false => rfl
      | true =>
        have hlt : i < bound := by
          refine lt_of_fits h hi (fun token htoken => ?_) hpoint
          obtain ⟨hkind, hvalue⟩ := kind_of_isPunctuator htoken
          simp [fitsTypeArguments, hkind, hvalue]
        rw [isAnyName_alike h hlt]
    rw [skipMembers, skipMembers]
    refine keeps_ite (fun hi => by rw [hmember hi]) (fun _ => ?_)
      fun _ => keeps_pure (Nat.le_refl i)
    exact (ih (i + 2)).mono (by omega)

theorem keeps_skipDecorator (h : BeginAlike bound tokens tokens') (steps i : Nat) :
    Keeps bound i (skipDecorator tokens steps i) (skipDecorator tokens' steps i) := by
  refine keeps_ite (fun hi => by rw [isAnyName_alike h hi]) (fun _ => ?_) fun _ => keeps_error _
  refine Keeps.mono ?_ (Nat.le_succ i)
  refine (keeps_skipMembers h steps (i + 1)).bind fun named _ _ => ?_
  exact keeps_ite (fun hle => by rw [isPunctuator_alike h hle])
    (fun _ => keeps_skipBalanced h steps 0 named) fun _ => keeps_pure (Nat.le_refl named)

theorem keeps_skipDecorators (h : BeginAlike bound tokens tokens') (steps i : Nat) :
    Keeps bound i (skipDecorators tokens steps i) (skipDecorators tokens' steps i) := by
  induction steps generalizing i with
  | zero => exact keeps_error _
  | succ steps ih =>
    rw [skipDecorators, skipDecorators]
    refine keeps_ite (fun hi => by rw [isPunctuator_alike h hi]) (fun _ => ?_) fun _ =>
      keeps_pure (Nat.le_refl i)
    refine Keeps.mono ?_ (Nat.le_succ i)
    exact (keeps_skipDecorator h steps (i + 1)).bind fun after _ _ => ih after

theorem exportName_alike (h : BeginAlike bound tokens tokens') (hi : i ≤ bound) :
    exportName tokens' i = exportName tokens i := by
  rw [exportName, exportName, refuseFound, refuseFound, refuse, refuse, h.same i hi]

theorem keeps_moduleSource (h : BeginAlike bound tokens tokens') (i : Nat) :
    Keeps bound i (moduleSource tokens i) (moduleSource tokens' i) := by
  refine keeps_ite (fun hi => by rw [isName_alike h hi]) (fun _ => ?_) fun _ => keeps_error _
  refine Keeps.mono ?_ (Nat.le_succ i)
  exact keeps_ite (fun hi => by rw [h.same (i + 1) hi]) (fun _ => keeps_pure (Nat.le_succ (i + 1)))
    fun _ => keeps_error _

theorem keeps_declarationName (h : BeginAlike bound tokens tokens') (declared : Declared)
    (i : Nat) :
    Keeps bound i (declarationName tokens declared i) (declarationName tokens' declared i) := by
  have hstart : i ≤ bound →
      (if declared = .functionName ∧ isPunctuator tokens' i "*" then i + 1 else i) =
        if declared = .functionName ∧ isPunctuator tokens i "*" then i + 1 else i := by
    intro hi
    rw [isPunctuator_alike h hi]
  have hle := le_ite_succ (declared = .functionName ∧ isPunctuator tokens i "*" = true) i
  rw [declarationName, declarationName]
  dsimp only
  generalize (if declared = .functionName ∧ isPunctuator tokens' i "*" then i + 1 else i) = start'
    at hstart ⊢
  generalize (if declared = .functionName ∧ isPunctuator tokens i "*" then i + 1 else i) = start
    at hstart hle ⊢
  refine Keeps.mono ?_ hle
  refine keeps_found (fun hs => ?_) (fun token _ => ?_) (keeps_error _)
  · rw [hstart (Nat.le_trans hle hs), h.same start hs]
  refine keeps_ite (fun _ => Iff.rfl) (fun _ => ?_) fun _ => keeps_error _
  refine keeps_record_bind (keeps_of_eq (fun hs => ?_) (keeps_pure (Nat.le_succ start)))
  rw [hstart (Nat.le_trans hle hs)]

theorem keeps_importEquals (h : BeginAlike bound tokens tokens') (i : Nat) :
    Keeps bound i (importEquals tokens i) (importEquals tokens' i) := by
  have htype : i + 1 ≤ bound → (isName tokens' i "type" && isAnyName tokens' (i + 1)) =
      (isName tokens i "type" && isAnyName tokens (i + 1)) := by
    intro hi
    rw [isName_alike h (Nat.le_of_succ_le hi), isAnyName_alike h hi]
  rw [importEquals, importEquals]
  dsimp only
  generalize (isName tokens' i "type" && isAnyName tokens' (i + 1)) = typeOnly' at htype ⊢
  generalize (isName tokens i "type" && isAnyName tokens (i + 1)) = typeOnly at htype ⊢
  have hstart : i + 1 ≤ bound →
      (if typeOnly' then i + 1 else i) = if typeOnly then i + 1 else i := by
    intro hi
    rw [htype hi]
  have hle := le_ite_succ (typeOnly = true) i
  generalize (if typeOnly' then i + 1 else i) = start' at hstart ⊢
  generalize (if typeOnly then i + 1 else i) = start at hstart hle ⊢
  -- The reader ends two tokens further on at least, so that it looks at nothing behind its end.
  refine Keeps.mono ?_ (show i ≤ start + 2 by omega)
  refine keeps_found (fun hs => ?_) (fun token _ => ?_) (keeps_error _)
  · rw [hstart (by omega), h.same start (by omega)]
  refine keeps_ite (fun hs => ?_) (fun _ => ?_) fun _ => keeps_error _
  · rw [hstart (by omega), isPunctuator_alike h (show start + 1 ≤ bound by omega)]
  have hlast : Keeps bound (start + 2) (pure (start + 2)) (pure (start' + 2)) := by
    refine keeps_of_eq (fun hs => ?_) (keeps_pure (Nat.le_refl _))
    rw [hstart (by omega)]
  exact keeps_ite (fun hs => by rw [htype (by omega)]) (fun _ => keeps_record_bind hlast)
    fun _ => hlast

theorem keeps_exportStar (h : BeginAlike bound tokens tokens') (i : Nat) :
    Keeps bound i (exportStar tokens i) (exportStar tokens' i) := by
  refine keeps_ite (fun hi => by rw [isName_alike h hi]) (fun _ => ?_) fun _ =>
    keeps_moduleSource h i
  refine Keeps.mono ?_ (show i ≤ i + 2 by omega)
  refine keeps_bind_of_eq (fun hi => exportName_alike h (by omega)) fun name _ => ?_
  exact keeps_record_bind (keeps_moduleSource h (i + 2))

theorem isTypeModifier_alike (h : BeginAlike bound tokens tokens') (hi : i ≤ bound) :
    isTypeModifier tokens' i = isTypeModifier tokens i := by
  rw [isTypeModifier, isTypeModifier, isName_alike h hi]
  cases htype : isName tokens i "type" with
  | false => rfl
  | true =>
    have hlt := lt_of_isName h hi htype
    rw [h.same (i + 1) hlt]
    cases hsecond : tokens[i + 1]? with
    | none => rfl
    | some token =>
      dsimp only
      by_cases has : token.isName "as" = true
      · have hname : isName tokens (i + 1) "as" = true := by
          rw [isName, hsecond]
          exact has
        have hlast := lt_of_isName h hlt hname
        rw [isName_alike h hlast, isPunctuator_alike h hlast, isPunctuator_alike h hlast]
      · rw [if_neg has, if_neg has]

theorem keeps_exportSpecifier (h : BeginAlike bound tokens tokens') (typeOnly : Bool) (i : Nat) :
    Keeps bound i (exportSpecifier tokens typeOnly i) (exportSpecifier tokens' typeOnly i) := by
  have hmodified : i ≤ bound → isTypeModifier tokens' i = isTypeModifier tokens i :=
    isTypeModifier_alike h
  rw [exportSpecifier, exportSpecifier]
  dsimp only
  generalize isTypeModifier tokens' i = modified' at hmodified ⊢
  generalize isTypeModifier tokens i = modified at hmodified ⊢
  have hstart : i ≤ bound → (if modified' then i + 1 else i) = if modified then i + 1 else i := by
    intro hi
    rw [hmodified hi]
  have hle := le_ite_succ (modified = true) i
  generalize (if modified' then i + 1 else i) = start' at hstart ⊢
  generalize (if modified then i + 1 else i) = start at hstart hle ⊢
  have hlast : ∀ n name, Keeps bound (start + n)
      (if (!typeOnly && !modified) = true then do
        record name
        pure (start + n)
      else pure (start + n))
      (if (!typeOnly && !modified') = true then do
        record name
        pure (start' + n)
      else pure (start' + n)) := by
    intro n name
    have hpure : Keeps bound (start + n) (pure (start + n)) (pure (start' + n)) := by
      refine keeps_of_eq (fun hs => ?_) (keeps_pure (Nat.le_refl _))
      rw [hstart (by omega)]
    exact keeps_ite (fun hs => by rw [hmodified (by omega)]) (fun _ => keeps_record_bind hpure)
      fun _ => hpure
  refine Keeps.mono ?_ (show i ≤ start + 1 by omega)
  refine keeps_bind_of_eq (fun hs => ?_) fun name _ => ?_
  · rw [hstart (by omega), exportName_alike h (by omega)]
  refine keeps_ite (fun hs => ?_) (fun _ => ?_) fun _ => hlast 1 name
  · rw [hstart (by omega), isName_alike h hs]
  refine Keeps.mono ?_ (show start + 1 ≤ start + 3 by omega)
  refine keeps_bind_of_eq (fun hs => ?_) fun shown _ => hlast 3 shown
  rw [hstart (by omega), exportName_alike h (by omega)]

theorem keeps_exportSpecifiers (h : BeginAlike bound tokens tokens') (typeOnly : Bool)
    (opened opened' steps i : Nat) :
    Keeps bound i (exportSpecifiers tokens typeOnly opened steps i)
      (exportSpecifiers tokens' typeOnly opened' steps i) := by
  induction steps generalizing i with
  | zero => exact keeps_error _
  | succ steps ih =>
    rw [exportSpecifiers, exportSpecifiers]
    refine keeps_ite (fun hi => by rw [isPunctuator_alike h hi])
      (fun _ => keeps_pure (Nat.le_succ i)) fun _ => ?_
    refine keeps_ite (fun hi => by rw [h.same i hi]) (fun _ => keeps_error _) fun _ => ?_
    refine (keeps_exportSpecifier h typeOnly i).bind fun after _ _ => ?_
    refine keeps_ite (fun hle => by rw [isPunctuator_alike h hle]) (fun _ => ?_) fun _ => ?_
    · exact (ih (after + 1)).mono (Nat.le_succ after)
    · exact keeps_ite (fun hle => by rw [isPunctuator_alike h hle]) (fun _ => ih after)
        fun _ => keeps_error _

theorem keeps_exportList (h : BeginAlike bound tokens tokens') (typeOnly : Bool) (steps i : Nat) :
    Keeps bound i (exportList tokens typeOnly steps i) (exportList tokens' typeOnly steps i) := by
  rw [exportList, exportList]
  refine Keeps.mono ?_ (Nat.le_succ i)
  refine (keeps_exportSpecifiers h typeOnly i i steps (i + 1)).bind fun listed _ _ => ?_
  exact keeps_ite (fun hle => by rw [isName_alike h hle]) (fun _ => keeps_moduleSource h listed)
    fun _ => keeps_pure (Nat.le_refl listed)

theorem keeps_exportDeclaration (h : BeginAlike bound tokens tokens') (word : String)
    (steps i : Nat) :
    Keeps bound (i + 1) (exportDeclaration tokens word steps i)
      (exportDeclaration tokens' word steps i) := by
  have hnext : Keeps bound (i + 1) (pure (i + 1)) (pure (i + 1)) := keeps_pure (Nat.le_refl _)
  have hsecond : ∀ name, i + 1 ≤ bound → isName tokens' (i + 1) name = isName tokens (i + 1) name :=
    fun name hi => isName_alike h hi name
  rw [exportDeclaration, exportDeclaration]
  refine keeps_ite (fun _ => Iff.rfl) (fun _ => keeps_record_bind hnext) fun _ => ?_
  refine keeps_ite (fun hi => by rw [isPunctuator_alike h hi])
    (fun _ => keeps_exportList h true steps (i + 1)) fun _ => ?_
  refine keeps_ite (fun _ => Iff.rfl) (fun _ => hnext) fun _ => ?_
  refine keeps_ite (fun _ => Iff.rfl) (fun _ => keeps_declarationName h _ (i + 1)) fun _ => ?_
  refine keeps_ite (fun hi => by rw [hsecond _ hi])
    (fun _ => (keeps_declarationName h _ (i + 2)).mono (Nat.le_succ _)) fun _ => ?_
  refine keeps_ite (fun _ => Iff.rfl) (fun _ => keeps_declarationName h _ (i + 1)) fun _ => ?_
  refine keeps_ite (fun hi => by rw [hsecond _ hi])
    (fun _ => (keeps_declarationName h _ (i + 2)).mono (Nat.le_succ _)) fun _ => ?_
  refine keeps_ite (fun _ => Iff.rfl) (fun _ => keeps_declarationName h _ (i + 1)) fun _ => ?_
  refine keeps_ite (fun hi => by rw [hsecond _ hi]) (fun _ => keeps_pure (Nat.le_succ _))
    fun _ => ?_
  refine keeps_ite (fun _ => Iff.rfl) (fun _ => keeps_variableDeclarations h steps (i + 1))
    fun _ => ?_
  refine keeps_ite (fun hi => by rw [isAnyName_alike h hi])
    (fun _ => keeps_declarationName h _ (i + 1)) fun _ => ?_
  exact keeps_ite (fun _ => Iff.rfl) (fun _ => keeps_importEquals h (i + 1)) fun _ => keeps_error _

/-- A statement that ends up to the bound is read alike in both lists. -/
theorem keeps_exportStatement (h : BeginAlike bound tokens tokens') (steps start : Nat) :
    Keeps bound start (exportStatement tokens steps start)
      (exportStatement tokens' steps start) := by
  rw [exportStatement, exportStatement]
  refine (keeps_skipDecorators h steps start).bind fun i _ _ => ?_
  refine keeps_ite (fun hi => by rw [isAnyName_alike h hi]) (fun _ => ?_) fun _ => ?_
  · refine keeps_of_le ((keeps_exportDeclaration h _ steps i).mono (Nat.le_succ i)) fun hi => ?_
    rw [h.same i hi]
  refine keeps_ite (fun hi => by rw [isPunctuator_alike h hi])
    (fun _ => keeps_exportList h false steps i) fun _ => ?_
  refine keeps_ite (fun hi => by rw [isPunctuator_alike h hi])
    (fun _ => (keeps_exportStar h (i + 1)).mono (Nat.le_succ i)) fun _ => ?_
  refine keeps_ite (fun hi => by rw [isPunctuator_alike h hi])
    (fun _ => keeps_pure (Nat.le_succ i)) fun _ => ?_
  exact keeps_ite (fun hi => by rw [h.same i hi]) (fun _ => keeps_error _) fun _ => keeps_error _

end Statements

end ByIndex

section Reaching

open ByIndex (At Mirrors Past Keeps Walk)

variable {bound i : Nat} {tokens tokens' : List Token} {place place' : Place}

/-- A reader that leads to an index up to the bound records the same in the other list and leads to
the same index. -/
theorem read_alike {walk walk' : Walk Nat} {read : Scan place.Beyond} {read' : Scan place'.Beyond}
    (h : Mirrors (Past tokens) walk read) (h' : i ≤ bound → Mirrors (Past tokens') walk' read')
    (hkeeps : Keeps bound i walk walk') {names : List String} {later : place.Beyond}
    (hread : read = ⟨names, .ok later⟩) :
    ∃ r, At tokens r later.1 ∧ (r ≤ bound → i ≤ bound ∧
      ∃ later', read' = ⟨names, .ok later'⟩ ∧ later'.1 = placeAt tokens' r) := by
  subst hread
  cases h with
  | @ok _ r _ hr =>
    refine ⟨r, hr, fun hle => ?_⟩
    have hi := Nat.le_trans (hkeeps.advances r rfl) hle
    have hother := h' hi
    obtain rfl := hkeeps.same r rfl hle
    cases hother with
    | @ok _ _ later' hr' => exact ⟨hi, later', rfl, hr'.eq⟩

theorem pass_alike {walk walk' : Walk Nat} (h : Mirrors (At tokens) walk (pure place))
    (h' : i ≤ bound → Mirrors (At tokens') walk' (pure place'))
    (hkeeps : Keeps bound i walk walk') :
    ∃ r, At tokens r place ∧ (r ≤ bound → i ≤ bound ∧ place' = placeAt tokens' r) := by
  obtain ⟨r, rfl, hr⟩ := h.eq_pure
  refine ⟨r, hr, fun hle => ?_⟩
  have hi := Nat.le_trans (hkeeps.advances r rfl) hle
  obtain ⟨r', hwalk, hr'⟩ := (h' hi).eq_pure
  rw [hkeeps.same r rfl hle] at hwalk
  cases hwalk
  exact ⟨hi, hr'.eq⟩

namespace BeginAlike

theorem at_other (h : BeginAlike bound tokens tokens') (hi : i ≤ bound)
    (hplace' : place' = placeAt tokens' i) : At tokens' i place' := by
  obtain ⟨token, htoken, -⟩ := h.inert
  have hlt := ByIndex.lt_length_of_getElem? ((h.same bound (Nat.le_refl _)).trans htoken)
  exact ⟨by omega, hplace'⟩

theorem first?_eq (h : BeginAlike bound tokens tokens') (hplace : At tokens i place)
    (hi : i ≤ bound) : (placeAt tokens' i).first? = place.first? := by
  rw [hplace.first?, first?_placeAt, h.same i hi]

theorem previous_eq (h : BeginAlike bound tokens tokens') (hplace : At tokens i place)
    (hi : i ≤ bound) : (placeAt tokens' i).previous = place.previous := by
  rw [hplace.eq, placeAt, placeAt, h.take_eq hi]

theorem readStatement (h : BeginAlike bound tokens tokens') (hplace : At tokens i place)
    (hplace' : place' = placeAt tokens' i) {names : List String} {later : place.Beyond}
    (hread : readStatement place = ⟨names, .ok later⟩) :
    ∃ r, At tokens r later.1 ∧ (r ≤ bound → i ≤ bound ∧
      ∃ later', Exports.readStatement place' = ⟨names, .ok later'⟩ ∧
        later'.1 = placeAt tokens' r) :=
  read_alike (ByIndex.mirrors_exportStatement hplace (by omega))
    (fun hle => ByIndex.mirrors_exportStatement (h.at_other hle hplace') (by omega))
    (ByIndex.keeps_exportStatement h (3 * (tokens.length + tokens'.length) + 2) i) hread

theorem bindingTarget (h : BeginAlike bound tokens tokens') (hplace : At tokens i place)
    (hplace' : place' = placeAt tokens' i) {names : List String} {later : place.Beyond}
    (hread : bindingTarget place = ⟨names, .ok later⟩) :
    ∃ r, At tokens r later.1 ∧ (r ≤ bound → i ≤ bound ∧
      ∃ later', Exports.bindingTarget place' = ⟨names, .ok later'⟩ ∧
        later'.1 = placeAt tokens' r) :=
  read_alike ((ByIndex.mirrorsPatterns tokens _).binding _ _ hplace (by omega))
    (fun hle => (ByIndex.mirrorsPatterns tokens' _).binding _ _ (h.at_other hle hplace') (by omega))
    ((ByIndex.keepsPatterns h (3 * (tokens.length + tokens'.length) + 1)).binding i) hread

theorem passDeclaratorTail (h : BeginAlike bound tokens tokens') (hplace : At tokens i place)
    (hplace' : place' = placeAt tokens' i) :
    ∃ r, At tokens r (passDeclaratorTail place) ∧ (r ≤ bound → i ≤ bound ∧
      Exports.passDeclaratorTail place' = placeAt tokens' r) :=
  pass_alike (ByIndex.mirrors_skipDeclaratorTail hplace (by omega))
    (fun hle => ByIndex.mirrors_skipDeclaratorTail (h.at_other hle hplace') (by omega))
    (ByIndex.keeps_skipDeclaratorTail h (tokens.length + tokens'.length + 3) i)

theorem passOptionalType (h : BeginAlike bound tokens tokens') (hplace : At tokens i place)
    (hplace' : place' = placeAt tokens' i) :
    ∃ r, At tokens r (passOptionalType place) ∧ (r ≤ bound → i ≤ bound ∧
      Exports.passOptionalType place' = placeAt tokens' r) :=
  pass_alike (ByIndex.mirrors_skipOptionalType hplace (by omega))
    (fun hle => ByIndex.mirrors_skipOptionalType (h.at_other hle hplace') (by omega))
    (ByIndex.keeps_skipOptionalType h (tokens.length + tokens'.length + 3) i)

/-- The scan of the other list comes to the same places up to the bound, with the same names. -/
theorem reaches (h : BeginAlike bound tokens tokens') {recorded : List String} {depth : Nat}
    (hreach : Reaches tokens recorded depth place) :
    ∃ i, At tokens i place ∧ (i ≤ bound → Reaches tokens' recorded depth (placeAt tokens' i)) := by
  induction hreach with
  | start => exact ⟨0, ByIndex.at_start tokens, fun _ => .start⟩
  | @pass recorded depth place token hreach hfirst hplain ih =>
    obtain ⟨i, hplace, hother⟩ := ih
    have hlt := ByIndex.lt_length_of_getElem? (hplace.first?.symm.trans hfirst)
    refine ⟨i + 1, hplace.next hlt, fun hle => ?_⟩
    have hle' := Nat.le_of_succ_le hle
    rw [← next_placeAt]
    refine .pass (hother hle') ((h.first?_eq hplace hle').trans hfirst) ?_
    rwa [h.previous_eq hplace hle']
  | @statement recorded names depth place token after hreach hfirst hexport hread ih =>
    obtain ⟨i, hplace, hother⟩ := ih
    have hlt := ByIndex.lt_length_of_getElem? (hplace.first?.symm.trans hfirst)
    obtain ⟨r, hr, hlast⟩ := h.readStatement (hplace.next hlt) next_placeAt hread
    refine ⟨r, hr, fun hle => ?_⟩
    obtain ⟨hi, after', hread', hafter'⟩ := hlast hle
    have hle' := Nat.le_of_succ_le hi
    rw [← hafter']
    refine .statement (hother hle') ((h.first?_eq hplace hle').trans hfirst) ?_ hread'
    rwa [h.previous_eq hplace hle']

theorem atVariables_eq (h : BeginAlike bound tokens tokens') (hplace : At tokens i place)
    (hi : i + 1 ≤ bound) : atVariables (placeAt tokens' i) = atVariables place := by
  have hle := Nat.le_of_succ_le hi
  simp only [hplace.eq, atVariables, next_placeAt, isName_placeAt, ByIndex.isName_alike h hle,
    ByIndex.isName_alike h hi]

/-- It comes to the same declarators. -/
theorem reachesDeclarator (h : BeginAlike bound tokens tokens') {recorded : List String}
    (hreach : ReachesDeclarator tokens recorded place) :
    ∃ i, At tokens i place ∧
      (i ≤ bound → ReachesDeclarator tokens' recorded (placeAt tokens' i)) := by
  induction hreach with
  | @first recorded depth place token hreach hfirst hexport hword =>
    obtain ⟨i, hplace, hother⟩ := h.reaches hreach
    have hnext := hplace.next (ByIndex.lt_length_of_getElem? (hplace.first?.symm.trans hfirst))
    obtain ⟨word, hfound, -⟩ := exists_first?_of_isAnyName (isAnyName_of_atVariables hword)
    have hlast := hnext.next (ByIndex.lt_length_of_getElem? (hnext.first?.symm.trans hfound))
    refine ⟨i + 2, hlast, fun hle => ?_⟩
    have hi : i ≤ bound := by omega
    rw [← next_placeAt, ← next_placeAt]
    refine .first (hother hi) ((h.first?_eq hplace hi).trans hfirst) ?_ ?_
    · rwa [h.previous_eq hplace hi]
    · rwa [next_placeAt, h.atVariables_eq hnext hle]
  | @later recorded names place middle hreach htarget hcomma ih =>
    obtain ⟨i, hplace, hother⟩ := ih
    obtain ⟨r, hmiddle, hbound⟩ := h.bindingTarget hplace rfl htarget
    obtain ⟨t, htail, hend⟩ := h.passDeclaratorTail hmiddle rfl
    have hlt : t < tokens.length := by
      rw [htail.isPunctuator] at hcomma
      exact ByIndex.lt_length_of_any hcomma
    refine ⟨t + 1, htail.next hlt, fun hle => ?_⟩
    obtain ⟨hr, htail'⟩ := hend (Nat.le_of_succ_le hle)
    obtain ⟨hi, middle', htarget', hmiddle'⟩ := hbound hr
    rw [← hmiddle'] at htail'
    rw [← next_placeAt, ← htail']
    refine .later (hother hi) htarget' ?_
    rw [htail', isPunctuator_placeAt, ByIndex.isPunctuator_alike h (Nat.le_of_succ_le hle),
      ← htail.isPunctuator]
    exact hcomma

end BeginAlike

end Reaching

end RouteTable.Exports
