import RouteTable.Proofs.Exports.Mirroring

/-!
The scan for exports makes progress on any tokens, whether their brackets are balanced or not. In no
more steps than there are tokens, three for each and a few more, it records what the scan by places
records and stops as that does. Each index that a statement or a pattern leads to is greater than
the one before, and what is only passed leads to no index before it or past the end.
-/

namespace RouteTable.Exports

open Script

namespace ByIndex

section Patterns

variable {tokens : List Token} {steps i : Nat} {place : Place}

/-- An index and a place that a reader went on to, past the one where it started. -/
def Past (tokens : List Token) (r : Nat) (later : place.Beyond) : Prop :=
  At tokens r later.1

theorem Past.lt {r : Nat} {later : place.Beyond} (h : At tokens i place)
    (hr : Past tokens r later) : i < r := by
  have hlt := later.2
  have hplace := h.remaining
  have hlater : later.1.remaining = tokens.length - r := At.remaining hr
  omega

/-- A reader that mirrors a place passed to mirrors what says that the place is further on. -/
theorem Mirrors.past {found : Walk Nat} {later : Place} (h : Mirrors (At tokens) found (pure later))
    {hlt : later.remaining < place.remaining} :
    Mirrors (Past tokens) found (pure ⟨later, hlt⟩ : Scan place.Beyond) := by
  generalize hpure : (pure later : Scan Place) = scan at h
  cases h with
  | error => cases hpure
  | ok hrelated =>
    cases hpure
    exact .ok hrelated

theorem mirrors_skipKey (h : At tokens i place) (hsteps : tokens.length - i < steps) :
    Mirrors (Past tokens) (skipKey tokens steps i) (passKey place) := by
  rw [skipKey, passKey]
  refine mirrors_first? h (fun _ => mirrors_refuse h _) fun key _ hfirst => ?_
  have hlt := lt_length_of_getElem? hfirst
  refine mirrors_ite (fun _ => ?_) fun _ => ?_
  · exact (mirrors_passGroup h hsteps).past
  · exact mirrors_ite (fun _ => mirrors_pure (h.next hlt)) fun _ => mirrors_refuseFound h _

/-- An index, and a place, that may be one token further on. -/
theorem at_ite {c c' : Prop} [Decidable c] [Decidable c'] (hc : c' ↔ c) (h : At tokens i place)
    (hlt : c → i < tokens.length) :
    At tokens (if c then i + 1 else i)
      (if c' then ⟨place.next, place.remaining_next_le⟩ else ⟨place, Nat.le_refl _⟩ :
        { p : Place // p.remaining ≤ place.remaining }).1 := by
  split
  · rename_i hyes
    rw [if_pos (hc.2 hyes)]
    exact h.next (hlt hyes)
  · rename_i hno
    rw [if_neg fun hyes => hno (hc.1 hyes)]
    exact h

theorem le_ite_succ (c : Prop) [Decidable c] (i : Nat) : i ≤ if c then i + 1 else i := by
  split
  · exact Nat.le_succ i
  · exact Nat.le_refl i

/-- With so many steps, each of the readers of patterns mirrors the one by places. A token takes
three of the steps at most: those of a list, of its element and of the pattern that starts there. -/
structure MirrorsPatterns (tokens : List Token) (steps : Nat) : Prop where
  binding : ∀ i place, At tokens i place → 3 * (tokens.length - i) + 1 ≤ steps →
    Mirrors (Past tokens) (bindingPattern tokens steps i) (bindingTarget place)
  property : ∀ i place, At tokens i place → 3 * (tokens.length - i) + 2 ≤ steps →
    Mirrors (Past tokens) (objectProperty tokens steps i) (Exports.objectProperty place)
  object : ∀ i place, At tokens i place → 3 * (tokens.length - i) + 3 ≤ steps →
    Mirrors (Past tokens) (objectPattern tokens steps i) (objectBindings place)
  array : ∀ i place, At tokens i place → 3 * (tokens.length - i) + 2 ≤ steps →
    Mirrors (Past tokens) (arrayPattern tokens steps i) (arrayBindings place)

theorem mirrors_bindingPattern (hpatterns : MirrorsPatterns tokens steps) (h : At tokens i place)
    (hsteps : 3 * (tokens.length - i) + 1 ≤ steps + 1) :
    Mirrors (Past tokens) (bindingPattern tokens (steps + 1) i) (bindingTarget place) := by
  rw [bindingPattern, bindingTarget]
  refine mirrors_first? h (fun _ => mirrors_refuse h _) fun token _ hfirst => ?_
  have hlt := lt_length_of_getElem? hfirst
  have hnext := h.next hlt
  refine mirrors_ite (fun _ => mirrors_record_bind (mirrors_pure hnext)) fun _ => ?_
  refine mirrors_ite (fun _ => ?_) fun _ => mirrors_ite (fun _ => ?_) fun _ => ?_
  · exact (hpatterns.object _ _ hnext (by omega)).bind_last fun _ _ hr => mirrors_pure hr
  · exact (hpatterns.array _ _ hnext (by omega)).bind_last fun _ _ hr => mirrors_pure hr
  · exact mirrors_refuseFound h _

theorem mirrors_objectProperty (hpatterns : MirrorsPatterns tokens steps) (h : At tokens i place)
    (hsteps : 3 * (tokens.length - i) + 2 ≤ steps + 1) :
    Mirrors (Past tokens) (objectProperty tokens (steps + 1) i) (Exports.objectProperty place) := by
  rw [objectProperty, Exports.objectProperty]
  refine mirrors_dite (by rw [h.isPunctuator]) (fun _ hrest => ?_) fun _ _ => ?_
  · have hnext := h.next (lt_length_of_any hrest)
    exact (hpatterns.binding _ _ hnext (by omega)).bind_last fun _ _ hr => mirrors_pure hr
  refine mirrors_dite ?_ (fun hname _ => ?_) fun _ _ => ?_
  · rw [h.isAnyName, Bool.and_eq_true, Bool.not_eq_true', Bool.not_eq_true']
    constructor
    · rintro ⟨hname, hcolon⟩
      rw [(h.next (lt_length_of_any hname)).isPunctuator] at hcolon
      exact ⟨hname, hcolon⟩
    · rintro ⟨hname, hcolon⟩
      rw [(h.next (lt_length_of_any hname)).isPunctuator]
      exact ⟨hname, hcolon⟩
  · have hlt := lt_length_of_any (h.isAnyName ▸ hname.1)
    rw [h.first?]
    refine mirrors_record_bind (Mirrors.past ?_)
    exact mirrors_skipOptionalDefault (h.next hlt) (by omega)
  · refine (mirrors_skipKey h (by omega)).bind ?_
    rintro colon ⟨later, hlater⟩ hcolon
    have hpast := hcolon.lt h
    have hat : At tokens colon later := hcolon
    dsimp only
    rw [hat.isPunctuator]
    refine mirrors_ite (fun hmark => ?_) fun _ => mirrors_refuse hat _
    have hlt := lt_length_of_any hmark
    have hnext := hat.next hlt
    refine (hpatterns.binding _ _ hnext (by omega)).bind ?_
    rintro bound ⟨after, hafter⟩ hbound
    have hbehind := hbound.lt hnext
    exact (mirrors_skipOptionalDefault hbound (by omega)).past

/-- The turn of the loop that finds the end of the pattern. -/
theorem objectPattern_end (hend : isPunctuator tokens i "\x7d" = true) (hsteps : 0 < steps) :
    objectPattern tokens steps i = pure (i + 1) := by
  obtain _ | steps := steps
  · omega
  · rw [objectPattern, if_pos hend]

theorem arrayPattern_end (hend : isPunctuator tokens i "]" = true) (hsteps : 0 < steps) :
    arrayPattern tokens steps i = pure (i + 1) := by
  obtain _ | steps := steps
  · omega
  · rw [arrayPattern, if_pos hend]

theorem mirrors_objectPattern (hpatterns : MirrorsPatterns tokens steps) (h : At tokens i place)
    (hsteps : 3 * (tokens.length - i) + 3 ≤ steps + 1) :
    Mirrors (Past tokens) (objectPattern tokens (steps + 1) i) (objectBindings place) := by
  rw [objectPattern, objectBindings]
  refine mirrors_dite (by rw [h.isPunctuator]) (fun _ hend => ?_) fun _ _ => ?_
  · exact mirrors_pure (h.next (lt_length_of_any hend))
  refine (hpatterns.property _ _ h (by omega)).bind ?_
  rintro after ⟨later, hlater⟩ hafter
  have hpast := hafter.lt h
  have hat : At tokens after later := hafter
  dsimp only
  rw [hat.isPunctuator, hat.isPunctuator]
  refine mirrors_ite (fun hcomma => ?_) fun _ => mirrors_ite (fun hend => ?_) fun _ => ?_
  · have hlt := lt_length_of_any hcomma
    have hnext := hat.next hlt
    exact (hpatterns.object _ _ hnext (by omega)).bind_last fun _ _ hr => mirrors_pure hr
  · have hlt := lt_length_of_any hend
    rw [objectPattern_end hend (by omega)]
    exact mirrors_pure (hat.next hlt)
  · exact mirrors_refuseFound hat _

theorem mirrors_arrayPattern (hpatterns : MirrorsPatterns tokens steps) (h : At tokens i place)
    (hsteps : 3 * (tokens.length - i) + 2 ≤ steps + 1) :
    Mirrors (Past tokens) (arrayPattern tokens (steps + 1) i) (arrayBindings place) := by
  rw [arrayPattern, arrayBindings]
  refine mirrors_dite (by rw [h.isPunctuator]) (fun _ hend => ?_) fun _ _ => ?_
  · exact mirrors_pure (h.next (lt_length_of_any hend))
  refine mirrors_dite (by rw [h.isPunctuator]) (fun _ hhole => ?_) fun _ _ => ?_
  · have hlt := lt_length_of_any hhole
    have hnext := h.next hlt
    exact (hpatterns.array _ _ hnext (by omega)).bind_last fun _ _ hr => mirrors_pure hr
  have hstart := le_ite_succ (isPunctuator tokens i "..." = true) i
  have helement : At tokens (if isPunctuator tokens i "..." then i + 1 else i)
      (if place.isPunctuator "..." then ⟨place.next, place.remaining_next_le⟩
        else ⟨place, Nat.le_refl _⟩ : { p : Place // p.remaining ≤ place.remaining }).1 :=
    at_ite (by rw [h.isPunctuator]) h lt_length_of_any
  dsimp only
  refine (hpatterns.binding _ _ helement (by omega)).bind ?_
  rintro bound ⟨later, hlater⟩ hbound
  have hpast := hbound.lt helement
  have hwithin := At.le hbound
  refine (mirrors_skipOptionalDefault hbound (by omega)).bind_pure fun after hat => ?_
  have hbehind := At.le_of_remaining_le hbound hat (remaining_passOptionalDefault_le _)
  dsimp only
  rw [hat.isPunctuator, hat.isPunctuator]
  refine mirrors_ite (fun hcomma => ?_) fun _ => mirrors_ite (fun hend => ?_) fun _ => ?_
  · have hlt := lt_length_of_any hcomma
    have hnext := hat.next hlt
    exact (hpatterns.array _ _ hnext (by omega)).bind_last fun _ _ hr => mirrors_pure hr
  · have hlt := lt_length_of_any hend
    rw [arrayPattern_end hend (by omega)]
    exact mirrors_pure (hat.next hlt)
  · exact mirrors_refuseFound hat _

theorem mirrorsPatterns (tokens : List Token) (steps : Nat) : MirrorsPatterns tokens steps := by
  induction steps with
  | zero => constructor <;> omega
  | succ steps ih =>
    exact ⟨fun _ _ => mirrors_bindingPattern ih, fun _ _ => mirrors_objectProperty ih,
      fun _ _ => mirrors_objectPattern ih, fun _ _ => mirrors_arrayPattern ih⟩

theorem mirrors_variableDeclarations (h : At tokens i place)
    (hsteps : 3 * (tokens.length - i) + 2 ≤ steps) :
    Mirrors (Past tokens) (variableDeclarations tokens steps i) (declarators place) := by
  induction steps generalizing i place with
  | zero => omega
  | succ steps ih =>
    rw [variableDeclarations, declarators]
    refine ((mirrorsPatterns tokens steps).binding _ _ h (by omega)).bind ?_
    rintro bound ⟨later, hlater⟩ hbound
    have hpast := hbound.lt h
    have hwithin := At.le hbound
    refine (mirrors_skipDeclaratorTail hbound (by omega)).bind_pure fun after hat => ?_
    have hbehind := At.le_of_remaining_le hbound hat (remaining_passDeclaratorTail_le _)
    dsimp only
    rw [hat.isPunctuator]
    refine mirrors_ite (fun hcomma => ?_) fun _ => mirrors_pure hat
    have hlt := lt_length_of_any hcomma
    exact (ih (hat.next hlt) (by omega)).bind_last fun _ _ hr => mirrors_pure hr

end Patterns

section Statements

variable {tokens : List Token} {steps i : Nat} {place : Place}

theorem mirrors_skipMembers (h : At tokens i place) (hsteps : tokens.length - i < steps) :
    Mirrors (At tokens) (skipMembers tokens steps i) (pure (passMembers place)) := by
  induction steps generalizing i place with
  | zero => omega
  | succ steps ih =>
    rw [skipMembers, passMembers, h.isPunctuator]
    by_cases hdot : isPunctuator tokens i "." = true
    · have hlt := lt_length_of_any hdot
      have hnext := h.next hlt
      rw [if_pos hdot, hdot, Bool.true_and]
      by_cases hname : isAnyName tokens (i + 1) = true
      · have hlast := lt_length_of_any hname
        rw [if_pos hname, dif_pos (hnext.isAnyName ▸ hname)]
        exact ih (hnext.next hlast) (by omega)
      · rw [if_neg hname, dif_neg (hnext.isAnyName ▸ hname)]
        exact mirrors_pure h
    · rw [if_neg hdot, if_neg (by simp [hdot])]
      exact mirrors_pure h

theorem mirrors_skipDecorator (h : At tokens i place) (hsteps : tokens.length - i < steps) :
    Mirrors (Past tokens) (skipDecorator tokens steps i) (passDecorator place) := by
  rw [skipDecorator, passDecorator]
  refine mirrors_dite (by rw [h.isAnyName]) (fun _ hname => ?_) fun _ _ => mirrors_refuse h _
  have hlt := lt_length_of_any hname
  have hnext := h.next hlt
  dsimp only
  refine (mirrors_skipMembers hnext (by omega)).bind_pure fun named hat => ?_
  have hbehind := hnext.le_of_remaining_le hat (remaining_passMembers_le _)
  refine mirrors_dite (by rw [hat.isPunctuator]) (fun _ hcall => ?_) fun _ _ => mirrors_pure hat
  exact (mirrors_passGroup hat (by omega)).past

theorem mirrors_skipDecorators (h : At tokens i place) (hsteps : tokens.length - i < steps) :
    Mirrors (fun r later => At tokens r later.1) (skipDecorators tokens steps i)
      (passDecorators place) := by
  induction steps generalizing i place with
  | zero => omega
  | succ steps ih =>
    rw [skipDecorators, passDecorators]
    refine mirrors_dite (by rw [h.isPunctuator]) (fun _ hmark => ?_) fun _ _ => mirrors_pure h
    have hlt := lt_length_of_any hmark
    have hnext := h.next hlt
    refine (mirrors_skipDecorator hnext (by omega)).bind ?_
    rintro after ⟨later, hlater⟩ hafter
    have hpast := hafter.lt hnext
    exact (ih hafter (by omega)).bind_last fun _ _ hr => mirrors_pure hr

theorem mirrors_exportName (h : At tokens i place) :
    Mirrors (fun name read => name = read.1 ∧ At tokens (i + 1) read.2.1) (exportName tokens i)
      (moduleExportName place) := by
  rw [exportName, moduleExportName]
  refine mirrors_found? h (fun token _ hfirst => ?_) fun _ => mirrors_refuseFound h _
  have hlt := lt_length_of_getElem? hfirst
  exact mirrors_ite (fun _ => mirrors_pure ⟨rfl, h.next hlt⟩) fun _ => mirrors_refuseFound h _

theorem mirrors_moduleSource (h : At tokens i place) :
    Mirrors (Past tokens) (moduleSource tokens i) (fromClause place) := by
  rw [moduleSource, fromClause]
  refine mirrors_dite (by rw [h.isName]) (fun _ hfrom => ?_) fun _ _ => mirrors_refuseFound h _
  have hlt := lt_length_of_any hfrom
  have hnext := h.next hlt
  rw [hnext.first?]
  refine mirrors_ite (fun hstring => ?_) fun _ => mirrors_refuse hnext _
  exact mirrors_pure (hnext.next (lt_length_of_any hstring))

theorem mirrors_declarationName (declared : Declared) (h : At tokens i place) :
    Mirrors (Past tokens) (declarationName tokens declared i) (declaredName declared place) := by
  have hstar : (declared = .functionName ∧ place.isPunctuator "*" = true) ↔
      (declared = .functionName ∧ isPunctuator tokens i "*" = true) := by rw [h.isPunctuator]
  have hstart := at_ite hstar h fun hboth => lt_length_of_any hboth.2
  rw [declarationName, declaredName]
  dsimp only
  refine mirrors_found? hstart (fun token _ hfirst => ?_) fun _ => mirrors_refuse hstart _
  have hlt := lt_length_of_getElem? hfirst
  refine mirrors_ite (fun _ => ?_) fun _ => mirrors_refuse hstart _
  exact mirrors_record_bind (mirrors_pure (hstart.next hlt))

theorem mirrors_importEquals (h : At tokens i place) :
    Mirrors (Past tokens) (importEquals tokens i) (importAlias place) := by
  have htype : (place.isName "type" && place.next.isAnyName) =
      (isName tokens i "type" && isAnyName tokens (i + 1)) := by
    rw [h.eq, isName_placeAt, next_placeAt, isAnyName_placeAt]
  have hstart := at_ite (Bool.eq_iff_iff.1 htype) h fun hboth =>
    lt_length_of_any (Bool.and_eq_true_iff.1 hboth).1
  rw [importEquals, importAlias]
  dsimp only
  refine mirrors_found? hstart (fun token _ hfirst => ?_) fun _ => mirrors_refuse hstart _
  have hnext := hstart.next (lt_length_of_getElem? hfirst)
  refine mirrors_ite_of_iff (by rw [hnext.isPunctuator]) (fun hassign => ?_) fun _ =>
    mirrors_refuse hstart _
  have hlast := hnext.next (lt_length_of_any (Bool.and_eq_true_iff.1 hassign).2)
  refine mirrors_ite_of_iff (by rw [htype]) (fun _ => ?_) fun _ => mirrors_pure hlast
  exact mirrors_record_bind (mirrors_pure hlast)

theorem mirrors_exportStar (h : At tokens i place) :
    Mirrors (Past tokens) (exportStar tokens i) (exportAll place) := by
  rw [exportStar, exportAll, h.isName]
  refine mirrors_ite (fun has => ?_) fun _ => mirrors_moduleSource h
  have hnext := h.next (lt_length_of_any has)
  refine (mirrors_exportName hnext).bind ?_
  rintro name ⟨read, later, hlater⟩ ⟨rfl, hat⟩
  exact mirrors_record_bind ((mirrors_moduleSource hat).bind_last fun _ _ hr => mirrors_pure hr)

theorem isTypeModifier_eq (h : At tokens i place) :
    Exports.isTypeModifier place = isTypeModifier tokens i := by
  have hbehind : (placeAt tokens i).next.next = placeAt tokens (i + 2) := by
    rw [next_placeAt, next_placeAt]
  rw [h.eq, Exports.isTypeModifier, isTypeModifier]
  dsimp only
  rw [hbehind, next_placeAt, first?_placeAt, isName_placeAt]
  cases tokens[i + 1]? with
  | none => rfl
  | some token =>
    dsimp only
    rw [isName_placeAt, isPunctuator_placeAt, isPunctuator_placeAt]

theorem mirrors_exportSpecifier (typeOnly : Bool) (h : At tokens i place) :
    Mirrors (Past tokens) (exportSpecifier tokens typeOnly i)
      (Exports.exportSpecifier typeOnly place) := by
  have hmodified := isTypeModifier_eq h
  have hstart := at_ite (Bool.eq_iff_iff.1 hmodified) h fun hboth =>
    lt_length_of_any (Bool.and_eq_true_iff.1 hboth).1
  rw [exportSpecifier, Exports.exportSpecifier]
  dsimp only
  refine (mirrors_exportName hstart).bind ?_
  rintro name ⟨read, named, hnamed⟩ ⟨rfl, hat⟩
  have hrecords : (!typeOnly && !Exports.isTypeModifier place) =
      (!typeOnly && !isTypeModifier tokens i) := by
    rw [hmodified]
  refine mirrors_ite_of_iff (by rw [hat.isName]) (fun has => ?_) fun _ => ?_
  · refine (mirrors_exportName (hat.next (lt_length_of_any has))).bind ?_
    rintro shown ⟨read', last, hlast⟩ ⟨rfl, hend⟩
    refine mirrors_ite_of_iff (by rw [hrecords]) (fun _ => ?_) fun _ => mirrors_pure hend
    exact mirrors_record_bind (mirrors_pure hend)
  · refine mirrors_ite_of_iff (by rw [hrecords]) (fun _ => ?_) fun _ => mirrors_pure hat
    exact mirrors_record_bind (mirrors_pure hat)

theorem exportSpecifiers_end {typeOnly : Bool} {opened : Nat}
    (hend : isPunctuator tokens i "\x7d" = true) (hsteps : 0 < steps) :
    exportSpecifiers tokens typeOnly opened steps i = pure (i + 1) := by
  obtain _ | steps := steps
  · omega
  · rw [exportSpecifiers, if_pos hend]

theorem mirrors_exportSpecifiers {typeOnly : Bool} {opened : Nat} {start : Place}
    (hopened : At tokens opened start) (h : At tokens i place)
    (hsteps : tokens.length - i < steps) :
    Mirrors (Past tokens) (exportSpecifiers tokens typeOnly opened steps i)
      (Exports.exportSpecifiers typeOnly start place) := by
  induction steps generalizing i place with
  | zero => omega
  | succ steps ih =>
    rw [exportSpecifiers, Exports.exportSpecifiers]
    refine mirrors_dite (by rw [h.isPunctuator]) (fun _ hend => ?_) fun _ _ => ?_
    · exact mirrors_pure (h.next (lt_length_of_any hend))
    refine mirrors_ite_of_iff (by rw [h.first?]) (fun _ => mirrors_refuse hopened _) fun _ => ?_
    refine (mirrors_exportSpecifier typeOnly h).bind ?_
    rintro after ⟨later, hlater⟩ hafter
    have hpast := hafter.lt h
    have hat : At tokens after later := hafter
    dsimp only
    rw [hat.isPunctuator, hat.isPunctuator]
    refine mirrors_ite (fun hcomma => ?_) fun _ => mirrors_ite (fun hend => ?_) fun _ => ?_
    · have hlt := lt_length_of_any hcomma
      exact (ih (hat.next hlt) (by omega)).bind_last fun _ _ hr => mirrors_pure hr
    · have hlt := lt_length_of_any hend
      rw [exportSpecifiers_end hend (by omega)]
      exact mirrors_pure (hat.next hlt)
    · exact mirrors_refuseFound hat _

theorem mirrors_exportList (typeOnly : Bool) (h : At tokens i place) (hlt : i < tokens.length)
    (hsteps : tokens.length - i < steps) :
    Mirrors (Past tokens) (exportList tokens typeOnly steps i) (exportClause typeOnly place) := by
  rw [exportList, exportClause]
  refine (mirrors_exportSpecifiers h (h.next hlt) (by omega)).bind ?_
  rintro listed ⟨later, hlater⟩ hlisted
  have hat : At tokens listed later := hlisted
  dsimp only
  rw [hat.isName]
  refine mirrors_ite (fun _ => ?_) fun _ => mirrors_pure hat
  exact (mirrors_moduleSource hat).bind_last fun _ _ hr => mirrors_pure hr

theorem mirrors_exportDeclaration (word : String) (h : At tokens i place)
    (hword : place.isAnyName = true) (hsteps : 3 * (tokens.length - i) + 2 ≤ steps) :
    Mirrors (Past tokens) (exportDeclaration tokens word steps i)
      (Exports.exportDeclaration word place hword) := by
  have hlt := lt_length_of_any (h.isAnyName ▸ hword)
  have hnext := h.next hlt
  rw [exportDeclaration, Exports.exportDeclaration]
  refine mirrors_ite (fun _ => mirrors_record_bind (mirrors_pure hnext)) fun _ => ?_
  refine mirrors_ite_of_iff (by rw [hnext.isPunctuator]) (fun hbrace => ?_) fun _ => ?_
  · have hbehind := lt_length_of_any (Bool.and_eq_true_iff.1 hbrace).2
    exact (mirrors_exportList true hnext hbehind (by omega)).bind_last fun _ _ hr => mirrors_pure hr
  refine mirrors_ite (fun _ => mirrors_pure hnext) fun _ => ?_
  refine mirrors_ite (fun _ => ?_) fun _ => ?_
  · exact (mirrors_declarationName _ hnext).bind_last fun _ _ hr => mirrors_pure hr
  refine mirrors_ite_of_iff (by rw [hnext.isName]) (fun hfunction => ?_) fun _ => ?_
  · have hbehind := hnext.next (lt_length_of_any (Bool.and_eq_true_iff.1 hfunction).2)
    exact (mirrors_declarationName _ hbehind).bind_last fun _ _ hr => mirrors_pure hr
  refine mirrors_ite (fun _ => ?_) fun _ => ?_
  · exact (mirrors_declarationName _ hnext).bind_last fun _ _ hr => mirrors_pure hr
  refine mirrors_ite_of_iff (by rw [hnext.isName]) (fun hclass => ?_) fun _ => ?_
  · have hbehind := hnext.next (lt_length_of_any (Bool.and_eq_true_iff.1 hclass).2)
    exact (mirrors_declarationName _ hbehind).bind_last fun _ _ hr => mirrors_pure hr
  refine mirrors_ite (fun _ => ?_) fun _ => ?_
  · exact (mirrors_declarationName _ hnext).bind_last fun _ _ hr => mirrors_pure hr
  refine mirrors_ite_of_iff (by rw [hnext.isName]) (fun henum => ?_) fun _ => ?_
  · exact mirrors_pure (hnext.next (lt_length_of_any (Bool.and_eq_true_iff.1 henum).2))
  refine mirrors_ite (fun _ => ?_) fun _ => ?_
  · exact (mirrors_variableDeclarations hnext (by omega)).bind_last fun _ _ hr => mirrors_pure hr
  refine mirrors_ite_of_iff (by rw [hnext.isAnyName]) (fun _ => ?_) fun _ => ?_
  · exact (mirrors_declarationName _ hnext).bind_last fun _ _ hr => mirrors_pure hr
  refine mirrors_ite (fun _ => ?_) fun _ => mirrors_refuseFound h _
  exact (mirrors_importEquals hnext).bind_last fun _ _ hr => mirrors_pure hr

theorem mirrors_exportStatement (h : At tokens i place)
    (hsteps : 3 * (tokens.length - i) + 2 ≤ steps) :
    Mirrors (Past tokens) (exportStatement tokens steps i) (readStatement place) := by
  rw [exportStatement, readStatement]
  refine (mirrors_skipDecorators h (by omega)).bind ?_
  rintro start ⟨later, hlater⟩ hat
  have hbehind := h.le_of_remaining_le hat hlater
  dsimp only at hat ⊢
  refine mirrors_dite (by rw [hat.isAnyName]) (fun _ hword => ?_) fun _ _ => ?_
  · rw [hat.first?]
    exact (mirrors_exportDeclaration _ hat _ (by omega)).bind_last fun _ _ hr => mirrors_pure hr
  refine mirrors_ite_of_iff (by rw [hat.isPunctuator]) (fun hbrace => ?_) fun _ => ?_
  · have hlt := lt_length_of_any hbrace
    exact (mirrors_exportList false hat hlt (by omega)).bind_last fun _ _ hr => mirrors_pure hr
  refine mirrors_ite_of_iff (by rw [hat.isPunctuator]) (fun hstar => ?_) fun _ => ?_
  · have hnext := hat.next (lt_length_of_any hstar)
    exact (mirrors_exportStar hnext).bind_last fun _ _ hr => mirrors_pure hr
  refine mirrors_dite (by rw [hat.isPunctuator]) (fun _ hassign => ?_) fun _ _ => ?_
  · exact mirrors_pure (hat.next (lt_length_of_any hassign))
  refine mirrors_ite_of_iff (by rw [hat.first?]) (fun _ => mirrors_refuse hat _) fun _ => ?_
  exact mirrors_refuseFound hat _

theorem mirrors_analyzeFrom {depth : Nat} (h : At tokens i place)
    (hsteps : 3 * (tokens.length - i) + 1 ≤ steps) :
    Mirrors (fun _ _ => True) (analyzeFrom tokens steps depth i) (scanFrom depth place) := by
  induction steps generalizing depth i place with
  | zero => omega
  | succ steps ih =>
    rw [analyzeFrom, scanFrom]
    refine mirrors_first? h (fun _ => mirrors_pure trivial) fun token _ hfirst => ?_
    have hlt := lt_length_of_getElem? hfirst
    have hnext := h.next hlt
    dsimp only
    refine mirrors_ite_of_iff (by rw [h.previous]) (fun _ => ?_) fun _ => ih hnext (by omega)
    refine (mirrors_exportStatement hnext (by omega)).bind ?_
    rintro after ⟨later, hlater⟩ hafter
    have hpast := hafter.lt hnext
    exact ih hafter (by omega)

end Statements

section Progress

variable {tokens : List Token} {steps i : Nat} {place : Place}

/-- A reader that refuses as a scan does, or goes on where the scan does, at an index after the one
where it starts. -/
def Advances (tokens : List Token) (i : Nat) (found : Walk Nat)
    (read : Scan (placeAt tokens i).Beyond) : Prop :=
  (∃ names r later, found = ⟨names, .ok r⟩ ∧ read = ⟨names, .ok later⟩ ∧
    later.1 = placeAt tokens r ∧ i < r ∧ r ≤ tokens.length) ∨
  ∃ names e, found = ⟨names, .error (.refused e)⟩ ∧ read = ⟨names, .error e⟩

/-- A reader that passes tokens alone, up to a place, and none that are not there. -/
def Skips (tokens : List Token) (i : Nat) (found : Walk Nat) (later : Place) : Prop :=
  ∃ r, found = pure r ∧ later = placeAt tokens r ∧ i ≤ r ∧ r ≤ tokens.length

/-- A search for type arguments that gives none, or an index after the one where it starts. -/
def FindsEnd (tokens : List Token) (i : Nat) (found : Walk (Option Nat)) : Prop :=
  ∃ last, found = pure last ∧ ∀ r ∈ last, i < r ∧ r ≤ tokens.length

/-- What the readers do at an index, with so many steps. -/
structure Progresses (tokens : List Token) (steps i : Nat) : Prop where
  statement : Advances tokens i (exportStatement tokens steps i) (readStatement (placeAt tokens i))
  declarations :
    Advances tokens i (variableDeclarations tokens steps i) (declarators (placeAt tokens i))
  binding : Advances tokens i (bindingPattern tokens steps i) (bindingTarget (placeAt tokens i))
  property :
    Advances tokens i (objectProperty tokens steps i) (Exports.objectProperty (placeAt tokens i))
  object : Advances tokens i (objectPattern tokens steps i) (objectBindings (placeAt tokens i))
  array : Advances tokens i (arrayPattern tokens steps i) (arrayBindings (placeAt tokens i))
  decorator : Advances tokens i (skipDecorator tokens steps i) (passDecorator (placeAt tokens i))
  balanced : Skips tokens i (skipBalanced tokens steps 0 i) (passGroup (placeAt tokens i))
  initializer : Skips tokens i (skipInitializer tokens steps i) (passInitializer (placeAt tokens i))
  default : Skips tokens i (skipDefault tokens steps i) (passDefault (placeAt tokens i))
  annotatedType :
    Skips tokens i (skipAnnotatedType tokens steps 0 i) (passAnnotatedType 0 (placeAt tokens i))
  group : tokens[i]?.any Token.isOpener = true →
    ∃ r, skipBalanced tokens steps 0 i = pure r ∧ i < r ∧ r ≤ tokens.length
  search : FindsEnd tokens i (typeArgumentsEnd tokens steps i)
  typeArguments : isPunctuator tokens i "<" = true →
    ∃ last, typeArgumentsEnd tokens steps i = pure last ∧
      typeArguments? (placeAt tokens i) = last.map (placeAt tokens)

theorem Mirrors.advances {found : Walk Nat} {read : Scan (placeAt tokens i).Beyond}
    (hmirrors : Mirrors (Past tokens) found read) (h : At tokens i (placeAt tokens i)) :
    Advances tokens i found read := by
  cases hmirrors with
  | @ok names r later hr => exact .inl ⟨names, r, later, rfl, rfl, hr.eq, hr.lt h, At.le hr⟩
  | @error names e => exact .inr ⟨names, e, rfl, rfl⟩

theorem Mirrors.skips {found : Walk Nat} {later : Place}
    (hmirrors : Mirrors (At tokens) found (pure later)) (h : At tokens i place)
    (hle : later.remaining ≤ place.remaining) : Skips tokens i found later := by
  obtain ⟨r, hfound, hr⟩ := hmirrors.eq_pure
  exact ⟨r, hfound, hr.eq, h.le_of_remaining_le hr hle, hr.le⟩

/-- What a reader by indices gives that stops as a scan does. -/
theorem Mirrors.eq_relabel {found : Walk Unit} {read : Scan Unit}
    (h : Mirrors (fun _ _ => True) found read) : found = read.relabel id Stop.refused := by
  cases h <;>
  · rw [Reporting.relabel, List.map_id]
    rfl

theorem findsEnd_none : FindsEnd tokens i (pure none) :=
  ⟨none, rfl, by simp⟩

theorem findsEnd_typeArgumentsFrom {j depth : Nat} (hj : i < j) (h : At tokens j place)
    (hsteps : tokens.length - j + 1 < steps) :
    FindsEnd tokens i (typeArgumentsFrom tokens i steps depth j) := by
  have hmirrors : Mirrors (Option.Rel (At tokens)) (typeArgumentsFrom tokens i steps depth j)
      (pure (Exports.typeArgumentsFrom depth place)) := mirrors_typeArgumentsFrom hj h hsteps
  obtain ⟨last, hfound, hrelated⟩ := hmirrors.eq_pure
  rw [hfound]
  cases hread : Exports.typeArgumentsFrom depth place with
  | none =>
    rw [hread] at hrelated
    cases hrelated
    exact findsEnd_none
  | some later =>
    rw [hread] at hrelated
    cases hrelated with
    | @some r _ hr =>
      have hpast := h.lt hr (remaining_typeArgumentsFrom_lt hread)
      refine ⟨some r, rfl, ?_⟩
      rintro _ ⟨⟩
      exact ⟨Nat.lt_trans hj hpast, hr.le⟩

/-- Whatever token the search starts at. No angle bracket is open there that could be taken away,
and behind it the search is the one for the end of type arguments. -/
theorem findsEnd_typeArgumentsEnd (h : At tokens i place)
    (hsteps : tokens.length - i + 2 < steps) :
    FindsEnd tokens i (typeArgumentsEnd tokens steps i) := by
  obtain ⟨steps, rfl⟩ := Nat.exists_eq_succ_of_ne_zero (Nat.ne_of_gt (Nat.zero_lt_of_lt hsteps))
  rw [typeArgumentsEnd]
  split
  · rw [typeArgumentsFrom]
    cases hfirst : tokens[i]? with
    | none => exact findsEnd_none
    | some token =>
      have hlt := lt_length_of_getElem? hfirst
      have hlater : ∀ depth, FindsEnd tokens i (typeArgumentsFrom tokens i steps depth (i + 1)) :=
        fun depth => findsEnd_typeArgumentsFrom (Nat.lt_succ_self i) (h.next hlt) (by omega)
      dsimp only
      rw [if_neg (by simp)]
      split
      · obtain ⟨r, hfound, hr⟩ := (mirrors_passGroup h (show _ < steps by omega)).eq_pure
        have hpast := h.lt_of_passGroup hfirst hr
        rw [hfound]
        exact findsEnd_typeArgumentsFrom hpast hr (by omega)
      split
      · exact hlater _
      split
      · rw [if_pos (Nat.zero_le _)]
        exact findsEnd_none
      split
      · exact hlater _
      · exact findsEnd_none
  · exact findsEnd_none

theorem progresses (hi : i ≤ tokens.length) (hsteps : 3 * tokens.length + 4 ≤ steps) :
    Progresses tokens steps i :=
  have h : At tokens i (placeAt tokens i) := ⟨hi, rfl⟩
  have hpatterns := mirrorsPatterns tokens steps
  { statement := (mirrors_exportStatement h (by omega)).advances h
    declarations := (mirrors_variableDeclarations h (by omega)).advances h
    binding := (hpatterns.binding _ _ h (by omega)).advances h
    property := (hpatterns.property _ _ h (by omega)).advances h
    object := (hpatterns.object _ _ h (by omega)).advances h
    array := (hpatterns.array _ _ h (by omega)).advances h
    decorator := (mirrors_skipDecorator h (by omega)).advances h
    balanced := (mirrors_passGroup h (by omega)).skips h (remaining_passGroupFrom_le _ _ _)
    initializer := (mirrors_skipExpression h (by omega)).skips h (remaining_passExpression_le _ _)
    default := (mirrors_skipExpression h (by omega)).skips h (remaining_passExpression_le _ _)
    annotatedType :=
      (mirrors_skipAnnotatedType h (by omega)).skips h (remaining_passAnnotatedType_le _ _)
    group := by
      intro hopener
      obtain ⟨token, hfirst, -⟩ := (Option.any_eq_true _ _).1 hopener
      obtain ⟨r, hfound, hr⟩ := (mirrors_passGroup h (show _ < steps by omega)).eq_pure
      exact ⟨r, hfound, h.lt_of_passGroup hfirst hr, hr.le⟩
    search := findsEnd_typeArgumentsEnd h (by omega)
    typeArguments := by
      intro hangle
      obtain ⟨last, hfound, hlast⟩ :=
        (mirrors_typeArgumentsEnd h (show _ < steps by omega) hangle).eq_pure
      refine ⟨last, hfound, ?_⟩
      generalize typeArguments? (placeAt tokens i) = read at hlast
      cases hlast with
      | none => rfl
      | some hr => exact congrArg some hr.eq }

/-- With three steps for each token, and four more, scanning by indices comes to an end of its own:
the one that the scan comes to. Wherever a reader starts, it goes on without counting past the end
of the tokens, and takes away no more angle brackets than are open. -/
theorem analyze_progresses (tokens : List Token) (steps : Nat)
    (hsteps : 3 * tokens.length + 4 ≤ steps) :
    analyze tokens steps = (scan tokens).relabel id .refused ∧
      ∀ i ≤ tokens.length, Progresses tokens steps i := by
  constructor
  · exact (mirrors_analyzeFrom (at_start tokens) (by omega)).eq_relabel
  · intro i hi
    exact progresses hi hsteps

/-- The words `export const`, and behind them an object pattern and a group that nothing closes. -/
def unclosedTokens : List Token :=
  [⟨.name, "export", ⟨1, 1⟩, false⟩, ⟨.name, "const", ⟨1, 8⟩, false⟩,
    ⟨.punctuator, "\x7b", ⟨1, 14⟩, false⟩, ⟨.name, "a", ⟨1, 16⟩, false⟩,
    ⟨.punctuator, "=", ⟨1, 18⟩, false⟩, ⟨.name, "b", ⟨1, 20⟩, false⟩,
    ⟨.punctuator, "<", ⟨1, 21⟩, false⟩, ⟨.punctuator, "(", ⟨1, 22⟩, false⟩]

/-- The pattern's default goes on to the end, where a separator is missed. -/
theorem analyze_unclosedTokens :
    (scan unclosedTokens).relabel id Stop.refused =
        ⟨["a"], .error (.refused ⟨none, .expectedObjectSeparator none⟩)⟩ ∧
      Progresses unclosedTokens 28 1 := by
  obtain ⟨hscan, hprogress⟩ := analyze_progresses unclosedTokens 28 (by decide)
  have hfound : analyze unclosedTokens 28 =
      ⟨["a"], .error (.refused ⟨none, .expectedObjectSeparator none⟩)⟩ := by
    rfl
  exact ⟨hscan.symm.trans hfound, hprogress 1 (by decide)⟩

end Progress

end ByIndex

end RouteTable.Exports
