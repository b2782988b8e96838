import RouteTable.Proofs.Exports.Concatenation
import RouteTable.Proofs.Exports.Declarations

/-!
Export lists. A specifier is a name, or a name with another behind `as`, and with the word `type` in
front it is one of a type. Words are names as well, so that `type` and `as` are told from the names
by how many tokens a specifier has: a specifier of a type has an even number.

The list is read with the names of the specifiers that are not of types, unless one of these exports
a binding named `type` as `as`. There the first `as` is taken for a name that `type` marks.
-/

namespace RouteTable.Exports

open Script

/-- A token that can be the name of an export: a name, keywords included, or a string. -/
def IsExportName (token : Token) : Prop :=
  token.kind = .name ∨ token.kind = .string

inductive Specifier where
  | plain (name : Token)
  | renamed (name word shown : Token)
  | plainType (modifier name : Token)
  | renamedType (modifier name word shown : Token)

namespace Specifier

def tokens : Specifier → List Token
  | .plain name => [name]
  | .renamed name word shown => [name, word, shown]
  | .plainType modifier name => [modifier, name]
  | .renamedType modifier name word shown => [modifier, name, word, shown]

/-- Whether the words of a specifier are `type` and `as`, and its names can be those of exports. -/
inductive WellFormed : Specifier → Prop where
  | plain {name : Token} (hname : IsExportName name) : WellFormed (.plain name)
  | renamed {name word shown : Token} (hname : IsExportName name)
      (hword : word.isName "as" = true) (hshown : IsExportName shown) :
      WellFormed (.renamed name word shown)
  | plainType {modifier name : Token} (hmodifier : modifier.isName "type" = true)
      (hname : IsExportName name) : WellFormed (.plainType modifier name)
  | renamedType {modifier name word shown : Token} (hmodifier : modifier.isName "type" = true)
      (hname : IsExportName name) (hword : word.isName "as" = true)
      (hshown : IsExportName shown) : WellFormed (.renamedType modifier name word shown)

/-- The name that a specifier exports, unless it is of a type. -/
def exported? : Specifier → Option String
  | .plain name => some name.value
  | .renamed _ _ shown => some shown.value
  | .plainType _ _ | .renamedType _ _ _ _ => none

/-- The names that the specifiers of a list record. In a list of types there are none. -/
def recorded (typeOnly : Bool) (specifiers : List Specifier) : List String :=
  bif typeOnly then [] else specifiers.filterMap exported?

/-- Whether a specifier exports a binding named `type` as `as`. -/
def isTypeAsAs : Specifier → Bool
  | .renamed name _ shown => name.isName "type" && shown.isName "as"
  | _ => false

end Specifier

/-- An export list behind its opening brace: specifiers with commas between them, a comma behind the
last of them or none, and the closing brace. -/
inductive Listed : List Specifier → List Token → Prop where
  | nil {closer : Token} (hcloser : closer.isPunctuator "\x7d" = true) : Listed [] [closer]
  | last {closer : Token} {specifier : Specifier} (h : specifier.WellFormed)
      (hcloser : closer.isPunctuator "\x7d" = true) :
      Listed [specifier] (specifier.tokens ++ [closer])
  | more {comma : Token} {specifier : Specifier} {others : List Specifier} {tokens : List Token}
      (h : specifier.WellFormed) (hcomma : comma.isPunctuator "," = true)
      (hothers : Listed others tokens) :
      Listed (specifier :: others) (specifier.tokens ++ comma :: tokens)

/-- The module that a list exports from, and what follows. A list that names none is not followed
by the word `from`. -/
inductive Origin : List Token → List Token → Prop where
  | absent {rest : List Token} (hrest : rest.head?.any (·.isName "from") = false) : Origin [] rest
  | present {word module : Token} {rest : List Token} (hword : word.isName "from" = true)
      (hmodule : module.kind = .string) : Origin [word, module] rest

def nameExpected (token : Token) : ExportError :=
  ⟨some token.position, .expectedExportName (some token)⟩

section Specifiers

variable {previous : Option Token} {token name word shown : Token} {rest : List Token}
  {place : Place}

theorem kind_of_isName {text : String} (h : token.isName text = true) : token.kind = .name := by
  simp only [Token.isName, Bool.and_eq_true, beq_iff_eq] at h
  exact h.1

theorem IsExportName.isPunctuator (h : IsExportName token) (text : String) :
    token.isPunctuator text = false := by
  rcases h with hkind | hkind <;> simp [Token.isPunctuator, hkind]

theorem StartsWith.isName_eq_false {texts : List String} (h : StartsWith texts rest)
    (text : String) : Place.isName ⟨previous, rest⟩ text = false := by
  obtain ⟨token, behind, rfl, hkind, -⟩ := h
  simp [Place.isName, Place.first?, Token.isName, hkind]

theorem IsExportName.kind_eq (h : IsExportName token) :
    (token.kind == .name || token.kind == .string) = true := by
  rcases h with hkind | hkind <;> rw [hkind] <;> rfl

theorem moduleExportName_name (hfirst : place.first? = some token) (h : IsExportName token) :
    moduleExportName place =
      pure (token.value, ⟨place.next, Place.remaining_next_lt hfirst⟩) := by
  rw [moduleExportName]
  split
  · rename_i found hfound
    cases hfirst.symm.trans hfound
    rw [if_pos h.kind_eq]
  · rename_i hnone
    cases hfirst.symm.trans hnone

theorem moduleExportName_separator (hfirst : place.first? = some token)
    (h : token.kind = .punctuator) :
    moduleExportName place = ⟨[], .error (nameExpected token)⟩ := by
  rw [moduleExportName]
  split
  · rename_i found hfound
    cases hfirst.symm.trans hfound
    rw [if_neg (by simp [h]), Scan.failFound, Scan.fail, hfirst]
    rfl
  · rename_i hnone
    cases hfirst.symm.trans hnone

theorem isTypeModifier_cons (second : Token) :
    isTypeModifier ⟨previous, token :: second :: rest⟩ = (token.isName "type" &&
      if second.isName "as" then
        Place.isName ⟨some second, rest⟩ "as" || Place.isPunctuator ⟨some second, rest⟩ "," ||
          Place.isPunctuator ⟨some second, rest⟩ "\x7d"
      else second.kind == .name || second.kind == .string) :=
  rfl

/-- The modifier is told from the name `type`, but it is also seen in front of `as as`. -/
theorem isTypeModifier_tokens {specifier : Specifier} (h : specifier.WellFormed)
    (hrest : StartsWith [",", "\x7d"] rest) :
    isTypeModifier ⟨previous, specifier.tokens ++ rest⟩ =
      (specifier.exported?.isNone || specifier.isTypeAsAs) := by
  cases h with
  | @plain name hname =>
    obtain ⟨separator, behind, rfl, hkind, -⟩ := hrest
    have has : separator.isName "as" = false := by simp [Token.isName, hkind]
    simp [Specifier.tokens, isTypeModifier_cons, has, hkind, Specifier.exported?,
      Specifier.isTypeAsAs]
  | @renamed name word shown hname hword hshown =>
    simp [Specifier.tokens, isTypeModifier_cons, hword, Place.isName, Place.isPunctuator,
      Place.first?, hshown.isPunctuator, Specifier.exported?, Specifier.isTypeAsAs]
  | @plainType modifier name hmodifier hname =>
    have hseparator : (Place.isPunctuator ⟨some name, rest⟩ "," ||
        Place.isPunctuator ⟨some name, rest⟩ "\x7d") = true := by
      obtain ⟨separator, behind, rfl, hkind, hmem⟩ := hrest
      simpa [Place.isPunctuator, Place.first?, Token.isPunctuator, hkind] using hmem
    rw [Specifier.tokens, List.cons_append, List.cons_append, List.nil_append, isTypeModifier_cons,
      hmodifier, Bool.or_assoc, hseparator, hname.kind_eq, Bool.or_true, ite_self]
    rfl
  | @renamedType modifier name word shown hmodifier hname hword hshown =>
    have hinside : Place.isName ⟨some name, word :: shown :: rest⟩ "as" = true := hword
    rw [Specifier.tokens, List.cons_append, List.cons_append, isTypeModifier_cons, hmodifier,
      List.cons_append, List.cons_append, List.nil_append, hinside, hname.kind_eq, Bool.true_or,
      Bool.true_or, ite_self]
    rfl

/-- Reads a specifier from its first name on, and records the name it exports unless it is of a
type. -/
def specifierNames (ofType : Bool) (place : Place) : Scan place.Beyond := do
  let found ← moduleExportName place
  if found.2.1.isName "as" then
    let shown ← moduleExportName found.2.1.next
    if !ofType then .record shown.1
    pure ⟨shown.2.1, Nat.lt_trans
      (Nat.lt_of_lt_of_le shown.2.2 found.2.1.remaining_next_le) found.2.2⟩
  else
    if !ofType then .record found.1
    pure found.2

/-- A specifier is read from its first name on, behind a modifier if there is one. -/
theorem exportSpecifier_eq (typeOnly : Bool) (place : Place) :
    ∃ start : { p : Place // p.remaining ≤ place.remaining },
      start.1 = (if isTypeModifier place then place.next else place) ∧
      exportSpecifier typeOnly place =
        specifierNames (typeOnly || isTypeModifier place) start.1 >>= fun later =>
          pure ⟨later.1, Nat.lt_of_lt_of_le later.2 start.2⟩ := by
  refine ⟨if isTypeModifier place then ⟨place.next, place.remaining_next_le⟩
    else ⟨place, Nat.le_refl _⟩, by split <;> rfl, ?_⟩
  rw [exportSpecifier, specifierNames, bind_assoc]
  congr 1
  funext ⟨name, named, hnamed⟩
  simp only [Bool.not_or]
  split
  · rw [bind_assoc]
    congr 1
    funext ⟨shown, last, hlast⟩
    split <;> rfl
  · split <;> rfl

theorem reads_specifierNames_plain (ofType : Bool) (hname : IsExportName name)
    (hrest : Place.isName ⟨some name, rest⟩ "as" = false) :
    Reads (specifierNames ofType ⟨previous, name :: rest⟩)
      (if ofType then [] else [name.value]) ⟨some name, rest⟩ := by
  have hnext : Place.isName (Place.next ⟨previous, name :: rest⟩) "as" = false := hrest
  refine ⟨Nat.lt_succ_self _, ?_⟩
  rw [specifierNames, moduleExportName_name rfl hname, pure_bind]
  simp only [hnext, Bool.false_eq_true, if_false]
  cases ofType <;> rfl

theorem reads_specifierNames_renamed (ofType : Bool) (hname : IsExportName name)
    (hword : word.isName "as" = true) (hshown : IsExportName shown) :
    Reads (specifierNames ofType ⟨previous, name :: word :: shown :: rest⟩)
      (if ofType then [] else [shown.value]) ⟨some shown, rest⟩ := by
  have hnext : Place.isName (Place.next ⟨previous, name :: word :: shown :: rest⟩) "as" = true :=
    hword
  refine ⟨Nat.lt_add_of_pos_right (by decide : 0 < 3), ?_⟩
  rw [specifierNames, moduleExportName_name rfl hname, pure_bind]
  simp only [hnext, if_true]
  rw [moduleExportName_name rfl hshown, pure_bind]
  cases ofType <;> rfl

/-- Where no name follows `as`, the token behind it is an error. -/
theorem specifierNames_separator (ofType : Bool) {separator : Token} (hname : IsExportName name)
    (hword : word.isName "as" = true) (hseparator : separator.kind = .punctuator) :
    specifierNames ofType ⟨previous, name :: word :: separator :: rest⟩ =
      ⟨[], .error (nameExpected separator)⟩ := by
  have hnext :
      Place.isName (Place.next ⟨previous, name :: word :: separator :: rest⟩) "as" = true := hword
  rw [specifierNames, moduleExportName_name rfl hname, pure_bind]
  simp only [hnext, if_true]
  rw [moduleExportName_separator rfl hseparator]
  rfl

/-- A specifier is read, unless it exports a binding named `type` as `as`. In a list of types it
records nothing. -/
theorem reads_specifier {specifier : Specifier} (typeOnly : Bool) (h : specifier.WellFormed)
    (hrest : StartsWith [",", "\x7d"] rest) (hread : specifier.isTypeAsAs = false)
    (previous : Option Token) :
    Reads (exportSpecifier typeOnly ⟨previous, specifier.tokens ++ rest⟩)
      (Specifier.recorded typeOnly [specifier]) ⟨lastOf previous specifier.tokens, rest⟩ := by
  obtain ⟨⟨start, hle⟩, hstart, heq⟩ :=
    exportSpecifier_eq typeOnly ⟨previous, specifier.tokens ++ rest⟩
  rw [isTypeModifier_tokens h hrest, hread, Bool.or_false] at hstart heq
  have hnames : Reads (specifierNames (typeOnly || specifier.exported?.isNone) start)
      (Specifier.recorded typeOnly [specifier]) ⟨lastOf previous specifier.tokens, rest⟩ := by
    cases h with
    | @plain name hname =>
      obtain rfl : start = ⟨previous, name :: rest⟩ := hstart
      have hplain : Reads (specifierNames typeOnly ⟨previous, name :: rest⟩)
          (if typeOnly then [] else [name.value]) ⟨some name, rest⟩ :=
        reads_specifierNames_plain typeOnly hname (hrest.isName_eq_false "as")
      cases typeOnly <;> exact hplain
    | @renamed name word shown hname hword hshown =>
      obtain rfl : start = ⟨previous, name :: word :: shown :: rest⟩ := hstart
      have hrenamed : Reads (specifierNames typeOnly ⟨previous, name :: word :: shown :: rest⟩)
          (if typeOnly then [] else [shown.value]) ⟨some shown, rest⟩ :=
        reads_specifierNames_renamed typeOnly hname hword hshown
      cases typeOnly <;> exact hrenamed
    | @plainType modifier name hmodifier hname =>
      obtain rfl : start = ⟨some modifier, name :: rest⟩ := hstart
      have hplain : Reads (specifierNames true ⟨some modifier, name :: rest⟩) []
          ⟨some name, rest⟩ :=
        reads_specifierNames_plain true hname (hrest.isName_eq_false "as")
      cases typeOnly <;> exact hplain
    | @renamedType modifier name word shown hmodifier hname hword hshown =>
      obtain rfl : start = ⟨some modifier, name :: word :: shown :: rest⟩ := hstart
      have hrenamed :
          Reads (specifierNames true ⟨some modifier, name :: word :: shown :: rest⟩) []
            ⟨some shown, rest⟩ :=
        reads_specifierNames_renamed true hname hword hshown
      cases typeOnly <;> exact hrenamed
  rw [heq]
  exact hnames.bind_pure fun hlast => reads_pure _

/-- In a specifier that exports a binding named `type` as `as`, the first `as` is taken for the name
and what follows the second for its alias. -/
theorem exportSpecifier_typeAsAs {specifier : Specifier} {separator : Token}
    (h : specifier.WellFormed) (hrest : StartsWith [",", "\x7d"] (separator :: rest))
    (hread : specifier.isTypeAsAs = true) (previous : Option Token) :
    exportSpecifier false ⟨previous, specifier.tokens ++ separator :: rest⟩ =
      ⟨[], .error (nameExpected separator)⟩ := by
  obtain ⟨⟨start, hle⟩, hstart, heq⟩ :=
    exportSpecifier_eq false ⟨previous, specifier.tokens ++ separator :: rest⟩
  rw [isTypeModifier_tokens h hrest, hread, Bool.or_true] at hstart heq
  rw [Bool.false_or] at heq
  cases h with
  | @renamed name word shown hname hword hshown =>
    obtain rfl : start = ⟨some name, word :: shown :: separator :: rest⟩ := hstart
    have hseparator : separator.kind = .punctuator := by
      obtain ⟨found, behind, hfound, hkind, -⟩ := hrest
      cases hfound
      exact hkind
    simp only [Specifier.isTypeAsAs, Bool.and_eq_true] at hread
    rw [heq, specifierNames_separator true (.inl (kind_of_isName hword)) hread.2 hseparator]
    rfl
  | plain hname => cases hread
  | plainType hmodifier hname => cases hread
  | renamedType hmodifier hname hword hshown => cases hread

end Specifiers

section List

variable {specifier : Specifier} {specifiers : List Specifier} {listed : List Token}

theorem Specifier.recorded_cons (typeOnly : Bool) (specifier : Specifier)
    (others : List Specifier) :
    recorded typeOnly (specifier :: others) =
      recorded typeOnly [specifier] ++ recorded typeOnly others := by
  cases typeOnly with
  | true => rfl
  | false => exact @List.filterMap_append _ _ [specifier] others Specifier.exported?

/-- A specifier starts with a name or a string. -/
theorem Specifier.WellFormed.head (h : specifier.WellFormed) :
    ∃ token rest, specifier.tokens = token :: rest ∧ IsExportName token := by
  cases h with
  | plain hname => exact ⟨_, _, rfl, hname⟩
  | renamed hname hword hshown => exact ⟨_, _, rfl, hname⟩
  | plainType hmodifier hname => exact ⟨_, _, rfl, .inl (kind_of_isName hmodifier)⟩
  | renamedType hmodifier hname hword hshown =>
    exact ⟨_, _, rfl, .inl (kind_of_isName hmodifier)⟩

/-- The list goes on with a specifier, which a comma or the closing brace follows. -/
theorem exportSpecifiers_tokens (typeOnly : Bool) (h : specifier.WellFormed) (opened : Place)
    (previous : Option Token) (rest : List Token) :
    exportSpecifiers typeOnly opened ⟨previous, specifier.tokens ++ rest⟩ =
      exportSpecifier typeOnly ⟨previous, specifier.tokens ++ rest⟩ >>= fun ⟨after, hafter⟩ =>
        if after.isPunctuator "," then
          exportSpecifiers typeOnly opened after.next >>= fun ⟨last, hlast⟩ =>
            pure ⟨last, Nat.lt_trans hlast (Nat.lt_of_le_of_lt after.remaining_next_le hafter)⟩
        else if after.isPunctuator "\x7d" then
          pure ⟨after.next, Nat.lt_of_le_of_lt after.remaining_next_le hafter⟩
        else .failFound after .expectedListSeparator := by
  obtain ⟨token, tail, htokens, hname⟩ := h.head
  have hcloser : Place.isPunctuator ⟨previous, specifier.tokens ++ rest⟩ "\x7d" = false := by
    rw [htokens]
    exact hname.isPunctuator "\x7d"
  have hfirst : (Place.first? ⟨previous, specifier.tokens ++ rest⟩).isNone = false := by
    rw [htokens]
    rfl
  rw [exportSpecifiers, dif_neg (by simp [hcloser]), if_neg (by simp [hfirst])]

/-- A list is read if none of its specifiers exports a binding named `type` as `as`. -/
theorem reads_specifiers (typeOnly : Bool) (h : Listed specifiers listed)
    (hread : ∀ specifier ∈ specifiers, specifier.isTypeAsAs = false) (opened : Place)
    (previous : Option Token) (behind : List Token) :
    Reads (exportSpecifiers typeOnly opened ⟨previous, listed ++ behind⟩)
      (Specifier.recorded typeOnly specifiers) ⟨lastOf previous listed, behind⟩ := by
  have hnone : Specifier.recorded typeOnly [] = [] := by
    cases typeOnly <;> rfl
  induction h generalizing previous with
  | @nil closer hcloser =>
    have hplace : Place.isPunctuator ⟨previous, [closer] ++ behind⟩ "\x7d" = true := hcloser
    rw [exportSpecifiers, dif_pos hplace, hnone]
    exact reads_pure _
  | @last closer specifier h hcloser =>
    have hcomma := isPunctuator_eq_false hcloser "," (by decide)
    have hfirst := reads_specifier typeOnly h (startsWith_cons hcloser (by simp) behind)
      (hread specifier List.mem_cons_self) previous
    rw [List.append_assoc, List.singleton_append, exportSpecifiers_tokens typeOnly h,
      lastOf_append]
    apply hfirst.bind_pure
    intro hmiddle
    simp only [Place.isPunctuator, Place.first?, List.head?_cons, Option.any_some, hcomma, hcloser,
      Bool.false_eq_true, if_false, if_true]
    exact reads_pure _
  | @more comma specifier others tokens h hcomma hothers ih =>
    have hfirst := reads_specifier typeOnly h (startsWith_cons hcomma (by simp) (tokens ++ behind))
      (hread specifier List.mem_cons_self) previous
    have hrest := ih (fun other hmem => hread other (List.mem_cons_of_mem specifier hmem))
      (some comma)
    rw [List.append_assoc, List.cons_append, exportSpecifiers_tokens typeOnly h, lastOf_append,
      lastOf_cons, Specifier.recorded_cons]
    apply hfirst.bind
    intro hmiddle
    simp only [Place.isPunctuator, Place.first?, List.head?_cons, Option.any_some, hcomma, if_true]
    exact hrest.bind_pure fun hlast => reads_pure _

/-- A list with such a specifier fails at the token behind the first of them. -/
theorem exportSpecifiers_typeAsAs (h : Listed specifiers listed)
    (hbad : ∃ specifier ∈ specifiers, specifier.isTypeAsAs = true) (opened : Place)
    (previous : Option Token) (behind : List Token) :
    ∃ separator ∈ listed, (exportSpecifiers false opened ⟨previous, listed ++ behind⟩).outcome =
      .error (nameExpected separator) := by
  induction h generalizing previous with
  | nil hcloser =>
    obtain ⟨specifier, hmem, -⟩ := hbad
    cases hmem
  | @last closer specifier h hcloser =>
    obtain ⟨other, hmem, hother⟩ := hbad
    cases List.mem_singleton.1 hmem
    have hfirst := exportSpecifier_typeAsAs h (startsWith_cons hcloser (by simp) behind) hother
      previous
    refine ⟨closer, by simp, ?_⟩
    rw [List.append_assoc, List.singleton_append, exportSpecifiers_tokens false h, hfirst]
    rfl
  | @more comma specifier others tokens h hcomma hothers ih =>
    have hseparated := startsWith_cons hcomma (show "," ∈ [",", "\x7d"] by simp) (tokens ++ behind)
    rw [List.append_assoc, List.cons_append, exportSpecifiers_tokens false h]
    cases hword : specifier.isTypeAsAs with
    | true =>
      refine ⟨comma, by simp, ?_⟩
      rw [exportSpecifier_typeAsAs h hseparated hword]
      rfl
    | false =>
      obtain ⟨other, hmem, hother⟩ := hbad
      have hmem : other ∈ others := by
        refine (List.mem_cons.1 hmem).resolve_left ?_
        rintro rfl
        cases hword.symm.trans hother
      obtain ⟨separator, hin, herror⟩ := ih ⟨other, hmem, hother⟩ (some comma)
      obtain ⟨hlt, hfirst⟩ := reads_specifier false h hseparated hword previous
      refine ⟨separator, by simp [hin], ?_⟩
      rw [hfirst, Reporting.bind_ok]
      simp only [Place.isPunctuator, Place.first?, List.head?_cons, Option.any_some, hcomma,
        if_true]
      exact Reporting.outcome_bind_eq_error_iff.2 (.inl herror)

end List

section Statement

variable {specifiers : List Specifier} {listed origin rest : List Token} {opener : Token}

/-- Where a module is named, the word and the module are passed. -/
theorem reads_fromClause {word module : Token} (hword : word.isName "from" = true)
    (hmodule : module.kind = .string) (previous : Option Token) :
    Reads (fromClause ⟨previous, word :: module :: rest⟩) [] ⟨some module, rest⟩ := by
  have hplace : Place.isName ⟨previous, word :: module :: rest⟩ "from" = true := hword
  have hnext : (Place.next ⟨previous, word :: module :: rest⟩).first?.any (·.kind == .string) =
      true := by
    simp [Place.next, Place.first?, hmodule]
  rw [fromClause, dif_pos hplace, if_pos hnext]
  exact reads_pure _

theorem reads_exportClause {typeOnly : Bool} (hlist : Listed specifiers listed)
    (hread : ∀ specifier ∈ specifiers, specifier.isTypeAsAs = false) (horigin : Origin origin rest)
    (previous : Option Token) :
    Reads (exportClause typeOnly ⟨previous, opener :: (listed ++ (origin ++ rest))⟩)
      (Specifier.recorded typeOnly specifiers)
      ⟨lastOf (some opener) (listed ++ origin), rest⟩ := by
  have hspecifiers := reads_specifiers typeOnly hlist hread
    ⟨previous, opener :: (listed ++ (origin ++ rest))⟩ (some opener) (origin ++ rest)
  rw [exportClause, lastOf_append]
  apply hspecifiers.bind_pure
  intro hmiddle
  cases horigin with
  | absent hrest =>
    have hplace : Place.isName ⟨lastOf (some opener) listed, rest⟩ "from" = false := hrest
    simp only [List.nil_append, hplace, Bool.false_eq_true, if_false]
    exact reads_pure _
  | @present word module _ hword hmodule =>
    have hplace :
        Place.isName ⟨lastOf (some opener) listed, word :: module :: rest⟩ "from" = true := hword
    simp only [List.cons_append, List.nil_append, hplace, if_true]
    exact (reads_fromClause hword hmodule _).bind_pure fun hlast => reads_pure _

theorem exportClause_typeAsAs (hlist : Listed specifiers listed)
    (hbad : ∃ specifier ∈ specifiers, specifier.isTypeAsAs = true) (previous : Option Token) :
    ∃ separator ∈ listed,
      (exportClause false ⟨previous, opener :: (listed ++ rest)⟩).outcome =
        .error (nameExpected separator) := by
  obtain ⟨separator, hmem, herror⟩ := exportSpecifiers_typeAsAs hlist hbad
    ⟨previous, opener :: (listed ++ rest)⟩ (some opener) rest
  refine ⟨separator, hmem, ?_⟩
  rw [exportClause]
  exact Reporting.outcome_bind_eq_error_iff.2 (.inl herror)

/-- Behind the word `export`, a brace opens an export list. -/
theorem readStatement_list (hopener : opener.isPunctuator "\x7b" = true) (previous : Option Token) :
    readStatement ⟨previous, opener :: rest⟩ = exportClause false ⟨previous, opener :: rest⟩ := by
  have hplace : Place.isPunctuator ⟨previous, opener :: rest⟩ "\x7b" = true := hopener
  have hat : Place.isPunctuator ⟨previous, opener :: rest⟩ "@" = false :=
    isPunctuator_eq_false hopener "@" (by decide)
  have hname : Place.isAnyName ⟨previous, opener :: rest⟩ = false :=
    isAnyName_of_isPunctuator hopener
  have hdecorators : passDecorators ⟨previous, opener :: rest⟩ =
      pure ⟨⟨previous, opener :: rest⟩, Nat.le_refl _⟩ := by
    rw [passDecorators, dif_neg (by simp [hat])]
  rw [readStatement, hdecorators, pure_bind]
  simp only [hname, hplace, Bool.false_eq_true, dif_neg, if_true, not_false_eq_true]
  exact id_map _

/-- Where a statement that the scan comes to cannot be read, the module has no exports. -/
theorem exports_of_statement_error {tokens : List Token} {recorded : List String} {depth : Nat}
    {place : Place} {token : Token} {e : ExportError} (hreach : Reaches tokens recorded depth place)
    (hfirst : place.first? = some token)
    (hexport : startsExport (depthAfter depth token) place.previous token = true)
    (herror : (readStatement place.next).outcome = .error e) :
    (collect tokens).exports =
      .error ⟨e.position.getD ((tokens.getLast?.map Token.position).getD .start),
        .statement e.rule⟩ := by
  have hscan : (scan tokens).outcome = .error e := by
    rw [scan_of_reaches hreach, scanFrom_statement hfirst hexport, Reporting.bind_ok]
    exact Reporting.outcome_bind_eq_error_iff.2 (.inl herror)
  refine exports_collect_eq_error_iff.2 ⟨(scan tokens).reports, e, ?_, rfl⟩
  rw [← hscan]

/-- An export list that the scan comes to is read with the names of those of its specifiers that are
not of types, unless one of them exports a binding named `type` as `as`. Without such a one the
exports of the module are what was recorded before, these names and what is recorded behind the
list, each at its first occurrence. With one the module has no exports: the comma or brace behind it
is where a name was expected. -/
theorem collect_exportList {tokens : List Token} {recorded : List String} {depth : Nat}
    {previous : Option Token} {token opener : Token} {specifiers : List Specifier}
    {listed origin rest : List Token}
    (hreach : Reaches tokens recorded depth
      ⟨previous, token :: opener :: (listed ++ (origin ++ rest))⟩)
    (hexport : startsExport (depthAfter depth token) previous token = true)
    (hopener : opener.isPunctuator "\x7b" = true) (hlist : Listed specifiers listed)
    (horigin : Origin origin rest) :
    (Reads (readStatement ⟨some token, opener :: (listed ++ (origin ++ rest))⟩)
        (specifiers.filterMap Specifier.exported?)
        ⟨lastOf (some opener) (listed ++ origin), rest⟩ ↔
      ∀ specifier ∈ specifiers, specifier.isTypeAsAs = false) ∧
    ((∀ specifier ∈ specifiers, specifier.isTypeAsAs = false) →
      Reaches tokens (recorded ++ specifiers.filterMap Specifier.exported?) 0
        ⟨lastOf (some opener) (listed ++ origin), rest⟩ ∧
      (collect tokens).exports.toOption.map Bindings.names =
        match scanFrom 0 ⟨lastOf (some opener) (listed ++ origin), rest⟩ with
        | ⟨later, .ok ()⟩ =>
          some (recorded ++ specifiers.filterMap Specifier.exported? ++ later).eraseDups
        | ⟨_, .error _⟩ => none) ∧
    ((∃ specifier ∈ specifiers, specifier.isTypeAsAs = true) →
      ∃ separator ∈ listed, (collect tokens).exports =
        .error ⟨separator.position, .statement (.expectedExportName (some separator))⟩) := by
  have hstatement : readStatement ⟨some token, opener :: (listed ++ (origin ++ rest))⟩ =
      exportClause false ⟨some token, opener :: (listed ++ (origin ++ rest))⟩ :=
    readStatement_list hopener (some token)
  have hread : (∀ specifier ∈ specifiers, specifier.isTypeAsAs = false) →
      Reads (readStatement ⟨some token, opener :: (listed ++ (origin ++ rest))⟩)
        (specifiers.filterMap Specifier.exported?)
        ⟨lastOf (some opener) (listed ++ origin), rest⟩ := by
    intro hread
    rw [hstatement]
    exact reads_exportClause hlist hread horigin (some token)
  have hfails : (∃ specifier ∈ specifiers, specifier.isTypeAsAs = true) →
      ∃ separator ∈ listed,
        (readStatement ⟨some token, opener :: (listed ++ (origin ++ rest))⟩).outcome =
          .error (nameExpected separator) := by
    intro hbad
    rw [hstatement]
    exact exportClause_typeAsAs hlist hbad (some token)
  refine ⟨⟨fun hreads => ?_, hread⟩, fun hgood => ?_, fun hbad => ?_⟩
  · obtain ⟨hlt, hok⟩ := hreads
    by_contra hbad
    simp only [not_forall, Bool.not_eq_false, exists_prop] at hbad
    obtain ⟨separator, -, herror⟩ := hfails hbad
    rw [hok] at herror
    cases herror
  · obtain ⟨hlt, hok⟩ := hread hgood
    have hafter := hreach.statement rfl hexport hok
    rw [depthAfter_of_startsExport hexport] at hafter
    exact ⟨hafter, exports_of_reaches hafter⟩
  · obtain ⟨separator, hmem, herror⟩ := hfails hbad
    exact ⟨separator, hmem, exports_of_statement_error hreach rfl hexport herror⟩

end Statement

def sampleSpecifiers : List Specifier :=
  [.plain (lineToken .name 10 "a"),
    .renamed (lineToken .name 13 "type") (lineToken .name 18 "as") (lineToken .string 21 "b c"),
    .renamedType (lineToken .name 28 "type") (lineToken .name 33 "as") (lineToken .name 36 "as")
      (lineToken .name 39 "D"),
    .renamed (lineToken .name 42 "default") (lineToken .name 50 "as") (lineToken .name 53 "a")]

def sampleListed : List Token :=
  [lineToken .name 10 "a", lineToken .punctuator 11 ",", lineToken .name 13 "type",
    lineToken .name 18 "as", lineToken .string 21 "b c", lineToken .punctuator 26 ",",
    lineToken .name 28 "type", lineToken .name 33 "as", lineToken .name 36 "as",
    lineToken .name 39 "D", lineToken .punctuator 40 ",", lineToken .name 42 "default",
    lineToken .name 50 "as", lineToken .name 53 "a", lineToken .punctuator 55 "\x7d"]

/-- `export \x7b a, type as "b c", type as as D, default as a \x7d from "m"` -/
def sampleList : List Token :=
  lineToken .name 1 "export" :: lineToken .punctuator 8 "\x7b" ::
    (sampleListed ++ ([lineToken .name 57 "from", lineToken .string 62 "m"] ++ []))

theorem listed_sampleListed : Listed sampleSpecifiers sampleListed :=
  .more (.plain (.inl rfl)) (by decide) <|
    .more (.renamed (.inl rfl) (by decide) (.inr rfl)) (by decide) <|
      .more (.renamedType (by decide) (.inl rfl) (by decide) (.inl rfl)) (by decide) <|
        .last (.renamed (.inl rfl) (by decide) (.inl rfl)) (by decide)

/-- `type as as D` exports a type, and a name that is exported twice counts once. -/
theorem collect_exportList_mixed :
    (∀ specifier ∈ sampleSpecifiers, specifier.isTypeAsAs = false) ∧
      (collect sampleList).exports.toOption.map Bindings.names = some ["a", "b c"] := by
  have hread : ∀ specifier ∈ sampleSpecifiers, specifier.isTypeAsAs = false := by
    decide
  have hreach : Reaches sampleList [] 0 ⟨none, sampleList⟩ := .start
  have hcollected := ((collect_exportList hreach (by decide) (by decide) listed_sampleListed
    (.present (by decide) (by decide))).2.1 hread).2
  refine ⟨hread, ?_⟩
  rw [hcollected, scanFrom_end rfl]
  decide

def typeAsAs : Specifier :=
  .renamed (lineToken .name 10 "type") (lineToken .name 15 "as") (lineToken .name 18 "as")

/-- A module of one list, which exports a binding named `type` as `as`. -/
def typeAsAsList : List Token :=
  lineToken .name 1 "export" :: lineToken .punctuator 8 "\x7b" ::
    (typeAsAs.tokens ++ [lineToken .punctuator 21 "\x7d"] ++ [lineToken .punctuator 22 ";"])

theorem readTokens_typeAsAs :
    readTokens "export \x7b type as as \x7d;" = .ok typeAsAsList := by
  have hplain : Written.writesPlainly "export \x7b type as as \x7d;"
      [.plain .name "" "export", .plain .punctuator " " "\x7b", .plain .name " " "type",
        .plain .name " " "as", .plain .name " " "as", .plain .punctuator " " "\x7d",
        .plain .punctuator "" ";"] [] = true := by
    decide
  rw [Written.readTokens_of_writesPlainly hplain]
  exact congrArg Except.ok (by decide)

/-- The list exports the name `as`, but it is refused at its closing brace. -/
theorem exports_typeAsAs :
    Listed [typeAsAs] (typeAsAs.tokens ++ [lineToken .punctuator 21 "\x7d"]) ∧
      [typeAsAs].filterMap Specifier.exported? = ["as"] ∧
      (collectSource "export \x7b type as as \x7d;").exports =
        .error ⟨⟨1, 21⟩, .statement (.expectedExportName (some
          (lineToken .punctuator 21 "\x7d")))⟩ := by
  refine ⟨.last (.renamed (.inl rfl) (by decide) (.inl rfl)) (by decide), by decide, ?_⟩
  have hfailure : (collect typeAsAsList).failure = some ⟨⟨1, 21⟩,
      .statement (.expectedExportName (some (lineToken .punctuator 21 "\x7d")))⟩ := by
    decide +kernel
  simp only [collectSource, readTokens_typeAsAs, Inventory.exports, hfailure]

end RouteTable.Exports
