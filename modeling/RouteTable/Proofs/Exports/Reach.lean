import RouteTable.Exports.Collect
import RouteTable.Proofs.Reporting

/-!
Where a scan gets to. Every place that a scan reaches carries the names recorded on the way, and
the scan of the whole module is those names followed by the scan from that place on. Declarations
of variables are opened up further, down to each of their declarators.
-/

namespace RouteTable.Exports

open Script

/-- Whether a token starts an export statement, with `inside` open brackets after it. -/
def startsExport (inside : Nat) (previous : Option Token) (token : Token) : Bool :=
  inside == 0 && token.isName "export" && !previous.any Token.isAccess

/-- Whether a place is at the word of a declaration of variables. -/
def atVariables (place : Place) : Bool :=
  (place.isName "const" && !place.next.isName "enum") || place.isName "let" || place.isName "var"

def scanDeclarators (place : Place) : Scan Unit :=
  declarators place >>= fun last => scanFrom 0 last.1

def scanAfterDeclarator (place : Place) : Scan Unit :=
  if place.isPunctuator "," then scanDeclarators place.next else scanFrom 0 place

/-- The places that the scan of a list of tokens comes to, outside of export statements, with the
names recorded so far and the number of open brackets. -/
inductive Reaches (tokens : List Token) : List String → Nat → Place → Prop where
  | start : Reaches tokens [] 0 (.start tokens)
  | pass {recorded : List String} {depth : Nat} {place : Place} {token : Token}
      (h : Reaches tokens recorded depth place) (hfirst : place.first? = some token)
      (hplain : startsExport (depthAfter depth token) place.previous token = false) :
      Reaches tokens recorded (depthAfter depth token) place.next
  | statement {recorded names : List String} {depth : Nat} {place : Place} {token : Token}
      {after : place.next.Beyond}
      (h : Reaches tokens recorded depth place) (hfirst : place.first? = some token)
      (hexport : startsExport (depthAfter depth token) place.previous token = true)
      (hread : readStatement place.next = ⟨names, .ok after⟩) :
      Reaches tokens (recorded ++ names) (depthAfter depth token) after.1

/-- The places that the scan of a list of tokens comes to at a declarator of an exported
declaration, with the names recorded so far. -/
inductive ReachesDeclarator (tokens : List Token) : List String → Place → Prop where
  | first {recorded : List String} {depth : Nat} {place : Place} {token : Token}
      (h : Reaches tokens recorded depth place) (hfirst : place.first? = some token)
      (hexport : startsExport (depthAfter depth token) place.previous token = true)
      (hword : atVariables place.next = true) :
      ReachesDeclarator tokens recorded place.next.next
  | later {recorded names : List String} {place : Place} {bound : place.Beyond}
      (h : ReachesDeclarator tokens recorded place)
      (htarget : bindingTarget place = ⟨names, .ok bound⟩)
      (hcomma : (passDeclaratorTail bound.1).isPunctuator "," = true) :
      ReachesDeclarator tokens (recorded ++ names) (passDeclaratorTail bound.1).next

/-- The token before the end of some tokens, where `previous` stands before them. -/
def lastOf (previous : Option Token) (tokens : List Token) : Option Token :=
  tokens.getLast?.or previous

@[simp] theorem lastOf_nil (previous : Option Token) : lastOf previous [] = previous :=
  rfl

@[simp] theorem lastOf_cons (previous : Option Token) (token : Token) (rest : List Token) :
    lastOf previous (token :: rest) = lastOf (some token) rest := by
  cases rest with
  | nil => rfl
  | cons next rest => simp [lastOf, List.getLast?_cons]

@[simp] theorem lastOf_append (previous : Option Token) (first second : List Token) :
    lastOf previous (first ++ second) = lastOf (lastOf previous first) second := by
  induction first generalizing previous with
  | nil => rfl
  | cons token rest ih =>
    rw [List.cons_append, lastOf_cons, lastOf_cons]
    exact ih (some token)

theorem scanFrom_pass {depth : Nat} {place : Place} {token : Token}
    (hfirst : place.first? = some token)
    (hplain : startsExport (depthAfter depth token) place.previous token = false) :
    scanFrom depth place = scanFrom (depthAfter depth token) place.next := by
  rw [scanFrom]
  split
  · rename_i hnone
    cases hfirst.symm.trans hnone
  · rename_i found hfound
    cases hfirst.symm.trans hfound
    rw [startsExport] at hplain
    simp only [hplain, Bool.false_eq_true, if_false]

theorem scanFrom_statement {depth : Nat} {place : Place} {token : Token}
    (hfirst : place.first? = some token)
    (hexport : startsExport (depthAfter depth token) place.previous token = true) :
    scanFrom depth place =
      readStatement place.next >>= fun after => scanFrom (depthAfter depth token) after.1 := by
  rw [scanFrom]
  split
  · rename_i hnone
    cases hfirst.symm.trans hnone
  · rename_i found hfound
    cases hfirst.symm.trans hfound
    rw [startsExport] at hexport
    simp only [hexport, if_true]

theorem scanFrom_end {place : Place} (h : place.first? = none) (depth : Nat) :
    scanFrom depth place = pure () := by
  rw [scanFrom]
  split
  · rfl
  · rename_i found hfound
    cases h.symm.trans hfound

theorem depthAfter_of_isName {token : Token} {name : String} (h : token.isName name = true)
    (depth : Nat) : depthAfter depth token = depth := by
  simp only [Token.isName, Bool.and_eq_true, beq_iff_eq] at h
  simp [depthAfter, Token.isOpener, Token.isCloser, h.1]

/-- The word `export` leaves the number of open brackets as it is. -/
theorem depthAfter_of_startsExport {depth : Nat} {previous : Option Token} {token : Token}
    (h : startsExport (depthAfter depth token) previous token = true) :
    depthAfter depth token = 0 := by
  simp only [startsExport, Bool.and_eq_true, beq_iff_eq] at h
  exact h.1.1

/-- A scan is what was recorded up to a place that it reaches, and the scan from there. -/
theorem scan_of_reaches {tokens : List Token} {recorded : List String} {depth : Nat}
    {place : Place} (h : Reaches tokens recorded depth place) :
    scan tokens = (⟨recorded, .ok ()⟩ : Scan Unit) >>= fun _ => scanFrom depth place := by
  induction h with
  | start => rfl
  | pass h hfirst hplain ih =>
    rw [ih, scanFrom_pass hfirst hplain]
  | @statement recorded names depth place token after h hfirst hexport hread ih =>
    rw [ih, scanFrom_statement hfirst hexport, hread]
    simp only [Reporting.bind_ok, List.append_assoc]

/-- A list of declarators is its first declarator and what follows that. -/
theorem scanDeclarators_eq (place : Place) :
    scanDeclarators place =
      bindingTarget place >>= fun bound => scanAfterDeclarator (passDeclaratorTail bound.1) := by
  rw [scanDeclarators, declarators, bind_assoc]
  congr 1
  funext bound
  obtain ⟨bound, hbound⟩ := bound
  simp only [scanAfterDeclarator]
  split
  · rw [scanDeclarators, bind_assoc]
    congr 1
  · rw [pure_bind]

theorem bindingTarget_name {place : Place} {token : Token} (hfirst : place.first? = some token)
    (hname : token.isAnyName = true) :
    bindingTarget place = ⟨[token.value], .ok ⟨place.next, Place.remaining_next_lt hfirst⟩⟩ := by
  rw [bindingTarget]
  split
  · rename_i hnone
    cases hfirst.symm.trans hnone
  · rename_i found hfound
    cases hfirst.symm.trans hfound
    rw [if_pos hname]
    rfl

theorem scanDeclarators_name {place : Place} {token : Token} (hfirst : place.first? = some token)
    (hname : token.isAnyName = true) :
    scanDeclarators place = (⟨[token.value], .ok ()⟩ : Scan Unit) >>=
      fun _ => scanAfterDeclarator (passDeclaratorTail place.next) := by
  rw [scanDeclarators_eq, bindingTarget_name hfirst hname]
  rfl

theorem passDecorators_of_isAnyName {place : Place} (h : place.isAnyName = true) :
    passDecorators place = pure ⟨place, Nat.le_refl _⟩ := by
  have hat : ¬ place.isPunctuator "@" = true := by
    rcases place with ⟨previous, _ | ⟨token, rest⟩⟩
    · exact Bool.false_ne_true
    · intro hat
      simp only [Place.isPunctuator, Place.isAnyName, Place.first?, List.head?_cons,
        Option.any_some, Token.isPunctuator, Token.isAnyName, Bool.and_eq_true, beq_iff_eq] at h hat
      rw [h] at hat
      cases hat.1
  rw [passDecorators, dif_neg hat]

theorem isAnyName_of_isName {place : Place} {name : String} (h : place.isName name = true) :
    place.isAnyName = true := by
  rcases place with ⟨previous, _ | ⟨token, rest⟩⟩
  · exact h
  · simp only [Place.isName, Place.isAnyName, Place.first?, List.head?_cons, Option.any_some,
      Token.isName, Token.isAnyName, Bool.and_eq_true] at h ⊢
    exact h.1

theorem isAnyName_of_atVariables {place : Place} (h : atVariables place = true) :
    place.isAnyName = true := by
  simp only [atVariables, Bool.or_eq_true, Bool.and_eq_true] at h
  rcases h with (hconst | hlet) | hvar
  · exact isAnyName_of_isName hconst.1
  · exact isAnyName_of_isName hlet
  · exact isAnyName_of_isName hvar

theorem value_of_isName {place : Place} {name : String} (h : place.isName name = true) :
    (place.first?.map Token.value).getD "" = name := by
  rcases place with ⟨previous, _ | ⟨token, rest⟩⟩
  · cases h
  · simp only [Place.isName, Place.first?, List.head?_cons, Option.any_some, Token.isName,
      Bool.and_eq_true, beq_iff_eq] at h
    exact h.2

/-- The word of a declaration of variables leads to its declarators. -/
theorem readStatement_eq_declarators {place : Place} (hword : atVariables place = true) :
    readStatement place = (fun later : place.next.Beyond =>
      (⟨later.1, Nat.lt_of_lt_of_le later.2 place.remaining_next_le⟩ : place.Beyond)) <$>
        declarators place.next := by
  have hkeyword : ∃ word ∈ ["const", "let", "var"], place.isName word = true ∧
      (word = "const" → place.next.isName "enum" = false) := by
    simp only [atVariables, Bool.or_eq_true, Bool.and_eq_true, Bool.not_eq_true'] at hword
    rcases hword with (⟨hconst, henum⟩ | hlet) | hvar
    · exact ⟨"const", by simp, hconst, fun _ => henum⟩
    · exact ⟨"let", by simp, hlet, fun h => absurd h (by decide)⟩
    · exact ⟨"var", by simp, hvar, fun h => absurd h (by decide)⟩
  obtain ⟨word, hmem, hname, henum⟩ := hkeyword
  have hany := isAnyName_of_isName hname
  have hvalue := value_of_isName hname
  have hdeclaration : exportDeclaration word place hany = (fun later : place.next.Beyond =>
      (⟨later.1, Nat.lt_trans later.2 (Place.remaining_next_lt_of_any hany)⟩ : place.Beyond)) <$>
        declarators place.next := by
    simp only [List.mem_cons, List.not_mem_nil, or_false] at hmem
    rcases hmem with rfl | rfl | rfl
    · simp [exportDeclaration, henum rfl]
    · simp [exportDeclaration]
    · simp [exportDeclaration]
  rw [readStatement, passDecorators_of_isAnyName hany]
  simp only [pure_bind, hany, dif_pos, hvalue, hdeclaration, map_eq_pure_bind, bind_assoc]

theorem readStatement_variables {place : Place} (hword : atVariables place = true) :
    readStatement place >>= (fun after => scanFrom 0 after.1) = scanDeclarators place.next := by
  simp only [readStatement_eq_declarators hword, map_eq_pure_bind, bind_assoc, pure_bind,
    scanDeclarators]

theorem scanFrom_variables {depth : Nat} {place : Place} {token : Token}
    (hfirst : place.first? = some token)
    (hexport : startsExport (depthAfter depth token) place.previous token = true)
    (hword : atVariables place.next = true) :
    scanFrom depth place = scanDeclarators place.next.next := by
  rw [scanFrom_statement hfirst hexport, depthAfter_of_startsExport hexport]
  exact readStatement_variables hword

/-- A scan is what was recorded up to a declarator that it reaches, and the scan from there. -/
theorem scan_of_reachesDeclarator {tokens : List Token} {recorded : List String} {place : Place}
    (h : ReachesDeclarator tokens recorded place) :
    scan tokens = (⟨recorded, .ok ()⟩ : Scan Unit) >>= fun _ => scanDeclarators place := by
  induction h with
  | first h hfirst hexport hword =>
    rw [scan_of_reaches h, scanFrom_variables hfirst hexport hword]
  | @later recorded names place bound h htarget hcomma ih =>
    rw [ih, scanDeclarators_eq, htarget]
    simp only [Reporting.bind_ok, scanAfterDeclarator, hcomma, if_true, List.append_assoc]

/-- A module that starts with an exported declaration of variables reaches its first declarator. -/
theorem reachesDeclarator_first {token word : Token} {rest : List Token}
    (hexport : token.isName "export" = true)
    (hword : atVariables ⟨some token, word :: rest⟩ = true) :
    ReachesDeclarator (token :: word :: rest) [] ⟨some word, rest⟩ := by
  have hstarts : startsExport (depthAfter 0 token) none token = true := by
    rw [depthAfter_of_isName hexport, startsExport, hexport]
    rfl
  have hfirst : (Place.start (token :: word :: rest)).first? = some token := rfl
  exact ReachesDeclarator.first .start hfirst hstarts hword

end RouteTable.Exports
