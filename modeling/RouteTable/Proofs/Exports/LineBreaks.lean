import RouteTable.Proofs.Exports.Declarations

/-!
Line breaks in the initializers of an exported declaration. A word that starts statements ends an
initializer where it is the first on its line, also behind an `=` or an operator, where it can only
go on with the expression. The declarators behind such a word are passed and their names are lost.
-/

namespace RouteTable.Exports

open Script

/-- What no initializer has outside of its brackets, whichever lines its tokens are on. -/
def stopsValue (token : Token) : Bool :=
  stopsDefault token || token.isPunctuator ";"

/-- Whether a token outside of all brackets, of which `depth` are open, is a word that starts
statements and the first on its line. -/
def breaksOff (depth : Nat) : List Token → Bool
  | [] => false
  | token :: rest => (depth == 0 && opensStatement token) || breaksOff (depthAfter depth token) rest

/-- The number of open brackets behind some tokens, if no export statement starts among them. -/
def quietDepth (depth : Nat) (previous : Option Token) : List Token → Option Nat
  | [] => some depth
  | token :: rest =>
    if startsExport (depthAfter depth token) previous token then none
    else quietDepth (depthAfter depth token) (some token) rest

/-- A declarator of one name with an initializer. -/
structure Assigned where
  name : Token
  assign : Token
  value : List Token

namespace Assigned

def tokens (assigned : Assigned) : List Token :=
  assigned.name :: assigned.assign :: assigned.value

/-- Whether the initializer has balanced brackets and, outside of them, no comma, semicolon or
opening angle bracket. The word `export` names nothing but a property. -/
structure WellFormed (assigned : Assigned) : Prop where
  name : assigned.name.isAnyName = true
  not_export : assigned.name.isName "export" = false
  assign : assigned.assign.isPunctuator "=" = true
  value : Clear stopsValue assigned.value
  quiet : quietDepth 0 (some assigned.assign) assigned.value = some 0

end Assigned

/-- Declarators with commas between them. -/
inductive Assignments : List Assigned → List Token → Prop where
  | one {assigned : Assigned} (h : assigned.WellFormed) : Assignments [assigned] assigned.tokens
  | more {comma : Token} {assigned : Assigned} {others : List Assigned} {tokens : List Token}
      (h : assigned.WellFormed) (hcomma : comma.isPunctuator "," = true)
      (hothers : Assignments others tokens) :
      Assignments (assigned :: others) (assigned.tokens ++ comma :: tokens)

/-- The declarators up to the first with an initializer that breaks off. -/
def collected : List Assigned → List Assigned
  | [] => []
  | assigned :: others =>
    assigned :: if breaksOff 0 assigned.value then [] else collected others

theorem collected_eq_self_iff {assigned : List Assigned} : collected assigned = assigned ↔
    ∀ a ∈ assigned.dropLast, breaksOff 0 a.value = false := by
  induction assigned with
  | nil => simp [collected]
  | cons a others ih =>
    rw [collected]
    cases others with
    | nil => cases breaksOff 0 a.value <;> simp [collected]
    | cons b others =>
      cases hbreaks : breaksOff 0 a.value with
      | true => simp [hbreaks]
      | false => simp [hbreaks, ih]

theorem collected_isPrefix (assigned : List Assigned) : collected assigned <+: assigned := by
  induction assigned with
  | nil => exact List.prefix_rfl
  | cons a others ih =>
    rw [collected, List.cons_prefix_cons]
    refine ⟨rfl, ?_⟩
    split
    · exact List.nil_prefix
    · exact ih

section Breaks

variable {opener closer token : Token} {inner value rest : List Token}

theorem breaksOff_plain (hopener : token.isOpener = false) (hcloser : token.isCloser = false)
    (depth : Nat) (rest : List Token) : breaksOff depth (token :: rest) =
      ((depth == 0 && opensStatement token) || breaksOff depth rest) := by
  rw [breaksOff, depthAfter_plain hopener hcloser]

/-- Brackets hide what they enclose. -/
theorem breaksOff_balanced (h : Balanced inner) (depth : Nat) (rest : List Token) :
    breaksOff (depth + 1) (inner ++ rest) = breaksOff (depth + 1) rest := by
  induction h generalizing depth rest with
  | nil => rfl
  | plain hopener hcloser h ih =>
    rw [List.cons_append, breaksOff_plain hopener hcloser, ih]
    rfl
  | group hopener hinner hcloser h ihInner ih =>
    rw [List.append_assoc, List.cons_append, breaksOff, depthAfter_opener hopener, ihInner,
      List.cons_append, breaksOff, depthAfter_closer hcloser, Nat.add_sub_cancel, ih]
    rfl

theorem breaksOff_group (hopener : opener.isOpener = true) (hinner : Balanced inner)
    (hcloser : closer.isCloser = true) (rest : List Token) :
    breaksOff 0 (opener :: inner ++ closer :: rest) = breaksOff 0 rest := by
  rw [List.cons_append, breaksOff, opensStatement_of_isOpener hopener, depthAfter_opener hopener,
    breaksOff_balanced hinner, breaksOff, depthAfter_closer hcloser]
  rfl

/-- An initializer that does not break off is clear of all that ends one, and one that does is so
up to the word that it breaks off at. -/
theorem clear_or_breaks (h : Clear stopsValue value) :
    (breaksOff 0 value = false ∧ Clear stopsInitializer value) ∨
      (breaksOff 0 value = true ∧ ∃ before token after, value = before ++ token :: after ∧
        Clear stopsInitializer before ∧ opensStatement token = true) := by
  induction h with
  | nil => exact .inl ⟨rfl, .nil⟩
  | @plain token rest hopener hcloser hclear h ih =>
    rw [breaksOff_plain hopener hcloser]
    cases hstatement : opensStatement token with
    | true => exact .inr ⟨rfl, [], token, rest, rfl, .nil, hstatement⟩
    | false =>
      have hstops : stopsInitializer token = false := by
        rw [stopsInitializer, hstatement, Bool.or_false]
        exact hclear
      rcases ih with ⟨hbreaks, hrest⟩ | ⟨hbreaks, before, word, after, rfl, hbefore, hword⟩
      · exact .inl ⟨by simp [hbreaks], .plain hopener hcloser hstops hrest⟩
      · exact .inr ⟨by simp [hbreaks], token :: before, word, after, rfl,
          .plain hopener hcloser hstops hbefore, hword⟩
  | @group opener closer inner rest hopener hinner hcloser h ih =>
    rw [breaksOff_group hopener hinner hcloser]
    rcases ih with ⟨hbreaks, hrest⟩ | ⟨hbreaks, before, word, after, rfl, hbefore, hword⟩
    · exact .inl ⟨hbreaks, .group hopener hinner hcloser hrest⟩
    · exact .inr ⟨hbreaks, opener :: inner ++ closer :: before, word, after, by simp,
        .group hopener hinner hcloser hbefore, hword⟩

theorem clear_of_not_breaksOff (h : Clear stopsValue value) (hbreaks : breaksOff 0 value = false) :
    Clear stopsInitializer value := by
  rcases clear_or_breaks h with ⟨-, hclear⟩ | ⟨htrue, -⟩
  · exact hclear
  · cases hbreaks.symm.trans htrue

theorem balanced_of_clear {stops : Token → Bool} (h : Clear stops value) : Balanced value := by
  induction h with
  | nil => exact .nil
  | plain hopener hcloser hclear h ih => exact .plain hopener hcloser ih
  | group hopener hinner hcloser h ih => exact .group hopener hinner hcloser ih

end Breaks

section Quiet

variable {tokens first second rest : List Token} {recorded : List String} {depth inner : Nat}
  {previous : Option Token}

theorem quietDepth_append (h : quietDepth depth previous first = some inner)
    (second : List Token) :
    quietDepth depth previous (first ++ second) =
      quietDepth inner (lastOf previous first) second := by
  induction first generalizing depth previous with
  | nil =>
    cases h
    rfl
  | cons token first ih =>
    rw [quietDepth] at h
    rw [List.cons_append, quietDepth, lastOf_cons]
    split at h
    · cases h
    · rename_i hplain
      rw [if_neg hplain]
      exact ih h

/-- Behind balanced tokens among which no export statement starts, none starts before the end. -/
theorem quietDepth_of_balanced (hbalanced : Balanced first)
    (h : quietDepth depth previous (first ++ second) = some inner) :
    quietDepth depth (lastOf previous first) second = some inner := by
  induction hbalanced generalizing depth previous second with
  | nil => exact h
  | @plain token rest hopener hcloser hbalanced ih =>
    rw [List.cons_append, quietDepth, depthAfter_plain hopener hcloser] at h
    split at h
    · cases h
    · rw [lastOf_cons]
      exact ih h
  | @group opener closer enclosed rest hopener hinner hcloser hbalanced ihInner ih =>
    rw [List.append_assoc, List.cons_append, quietDepth, depthAfter_opener hopener] at h
    split at h
    · cases h
    · have hbehind := ihInner h
      rw [List.cons_append, quietDepth, depthAfter_closer hcloser, Nat.add_sub_cancel] at hbehind
      split at hbehind
      · cases hbehind
      · have hlast := ih hbehind
        rwa [lastOf_append, lastOf_cons]

/-- A scan comes through tokens among which no export statement starts. -/
theorem reaches_quiet (h : Reaches tokens recorded depth ⟨previous, first ++ rest⟩)
    (hquiet : quietDepth depth previous first = some inner) :
    Reaches tokens recorded inner ⟨lastOf previous first, rest⟩ := by
  induction first generalizing depth previous with
  | nil =>
    cases hquiet
    exact h
  | cons token first ih =>
    rw [quietDepth] at hquiet
    split at hquiet
    · cases hquiet
    · rename_i hplain
      rw [lastOf_cons]
      exact ih (.pass h rfl (by simpa using hplain)) hquiet

/-- What is recorded on the way to a place does not depend on the way. -/
theorem recorded_of_reaches {recorded' : List String} {place : Place}
    (h : Reaches tokens recorded depth place) (h' : Reaches tokens recorded' depth place) :
    recorded = recorded' := by
  have hscan := (scan_of_reaches h).symm.trans (scan_of_reaches h')
  exact List.append_cancel_right (congrArg Reporting.reports hscan)

end Quiet

section Reading

variable {a : Assigned} {assigned : List Assigned} {list rest : List Token} {semicolon : Token}

/-- An initializer is passed, up to the comma or semicolon behind it. -/
theorem passDeclaratorTail_value {value : List Token} {assign : Token}
    (hassign : assign.isPunctuator "=" = true) (hvalue : Clear stopsInitializer value)
    (hrest : StartsWith [",", ";"] rest) (previous : Option Token) :
    passDeclaratorTail ⟨previous, assign :: (value ++ rest)⟩ =
      ⟨lastOf (some assign) value, rest⟩ := by
  have htail := passDeclaratorTail_append .absent .absent (.present hassign hvalue) hrest previous
  simpa using htail

/-- An initializer is passed up to the word that it breaks off at. -/
theorem passDeclaratorTail_break {before after : List Token} {assign word : Token}
    (hassign : assign.isPunctuator "=" = true) (hbefore : Clear stopsInitializer before)
    (hword : opensStatement word = true) (previous : Option Token) :
    passDeclaratorTail ⟨previous, assign :: (before ++ word :: after)⟩ =
      ⟨lastOf (some assign) before, word :: after⟩ := by
  have hmark : ∀ text, "=" ≠ text →
      Place.isPunctuator ⟨previous, assign :: (before ++ word :: after)⟩ text = false :=
    fun text hne => isPunctuator_eq_false hassign text hne
  have hasserted := hmark "!" (by decide)
  have hannotated := hmark ":" (by decide)
  have hplace : Place.isPunctuator ⟨previous, assign :: (before ++ word :: after)⟩ "=" = true :=
    hassign
  have hends : endsInitializer word = true := by simp [endsInitializer, hword]
  have hpassed : passInitializer ⟨some assign, before ++ word :: after⟩ =
      ⟨lastOf (some assign) before, word :: after⟩ := by
    rw [passInitializer, passExpression_clear endsAtStops_initializer hbefore,
      passExpression_stop hends]
  simp only [passDeclaratorTail, hasserted, hannotated, hplace, Bool.false_eq_true, if_false,
    if_true]
  exact hpassed

theorem quietDepth_plain {token : Token} (hopener : token.isOpener = false)
    (hcloser : token.isCloser = false) (hname : token.isName "export" = false)
    (previous : Option Token) (rest : List Token) :
    quietDepth 0 previous (token :: rest) = quietDepth 0 (some token) rest := by
  rw [quietDepth, depthAfter_plain hopener hcloser, startsExport, hname]
  rfl

theorem quietDepth_mark {token : Token} {text : String} (h : token.isPunctuator text = true)
    (htext : text ∉ brackets) (previous : Option Token) (rest : List Token) :
    quietDepth 0 previous (token :: rest) = quietDepth 0 (some token) rest := by
  obtain ⟨hkind, rfl⟩ := kind_of_isPunctuator h
  have hbracket := notBracket_of_value htext
  exact quietDepth_plain hbracket.1 hbracket.2 (by simp [Token.isName, hkind]) previous rest

theorem Assigned.WellFormed.quietDepth_tokens (h : a.WellFormed) (previous : Option Token) :
    quietDepth 0 previous a.tokens = some 0 := by
  have hkind : a.name.kind = .name := by simpa [Token.isAnyName] using h.name
  have hbracket := notBracket_of_kind (show a.name.kind ≠ .punctuator by simp [hkind])
  rw [Assigned.tokens, quietDepth_plain hbracket.1 hbracket.2 h.not_export,
    quietDepth_mark h.assign (by decide), h.quiet]

/-- Among declarators with commas between them no export statement starts. -/
theorem quietDepth_assignments (h : Assignments assigned list) (previous : Option Token) :
    quietDepth 0 previous list = some 0 := by
  induction h generalizing previous with
  | one h => exact h.quietDepth_tokens previous
  | more h hcomma hothers ih =>
    rw [quietDepth_append (h.quietDepth_tokens previous), quietDepth_mark hcomma (by decide), ih]

theorem reads_assignedName (h : a.WellFormed) (previous : Option Token) (rest : List Token) :
    Reads (bindingTarget ⟨previous, a.tokens ++ rest⟩) [a.name.value]
      ⟨some a.name, a.assign :: (a.value ++ rest)⟩ :=
  reads_name h.name

/-- An initializer that breaks off ends the reading of a declaration, and what is left of it is
where no export statement starts. -/
theorem reads_break (h : a.WellFormed) (hbreaks : breaksOff 0 a.value = true)
    (previous : Option Token) (rest : List Token) :
    ∃ passed left, a.tokens = passed ++ left ∧
      Reads (declarators ⟨previous, a.tokens ++ rest⟩) [a.name.value]
        ⟨lastOf previous passed, left ++ rest⟩ ∧
      quietDepth 0 (lastOf previous passed) left = some 0 := by
  rcases clear_or_breaks h.value with ⟨hclear, -⟩ | ⟨-, before, word, after, hvalue, hbefore, hword⟩
  · cases hclear.symm.trans hbreaks
  · have hname := reads_assignedName h previous rest
    rw [hvalue, List.append_assoc, List.cons_append] at hname
    have htail : passDeclaratorTail
        ⟨some a.name, a.assign :: (before ++ word :: (after ++ rest))⟩ =
          ⟨lastOf (some a.assign) before, word :: (after ++ rest)⟩ :=
      passDeclaratorTail_break h.assign hbefore hword (some a.name)
    have hcomma : Place.isPunctuator
        ⟨lastOf (some a.assign) before, word :: (after ++ rest)⟩ "," = false := by
      by_contra hmark
      rw [Bool.not_eq_false] at hmark
      rw [opensStatement_of_punctuator (kind_of_isPunctuator hmark).1] at hword
      cases hword
    have hread := reads_lastDeclarator hname (by rw [htail]; exact hcomma)
    rw [htail] at hread
    refine ⟨a.name :: a.assign :: before, word :: after, by simp [Assigned.tokens, hvalue], ?_, ?_⟩
    · rw [lastOf_cons, lastOf_cons]
      exact hread
    · have hquiet := h.quiet
      rw [hvalue] at hquiet
      rw [lastOf_cons, lastOf_cons]
      exact quietDepth_of_balanced (balanced_of_clear hbefore) hquiet

/-- A declaration is read with the names of its declarators up to the first with an initializer that
breaks off. What is left behind the reading starts no export statement. -/
theorem reads_assignments (h : Assignments assigned list)
    (hsemicolon : semicolon.isPunctuator ";" = true) (previous : Option Token)
    (rest : List Token) :
    ∃ passed left, list = passed ++ left ∧
      Reads (declarators ⟨previous, list ++ semicolon :: rest⟩)
        ((collected assigned).map (·.name.value))
        ⟨lastOf previous passed, left ++ semicolon :: rest⟩ ∧
      quietDepth 0 (lastOf previous passed) left = some 0 := by
  induction h generalizing previous with
  | @one a h =>
    cases hbreaks : breaksOff 0 a.value with
    | true =>
      obtain ⟨passed, left, htokens, hread, hquiet⟩ :=
        reads_break h hbreaks previous (semicolon :: rest)
      exact ⟨passed, left, htokens, by simpa [collected] using hread, hquiet⟩
    | false =>
      have hvalue := clear_of_not_breaksOff h.value hbreaks
      have hrest := startsWith_cons hsemicolon (show ";" ∈ [",", ";"] by simp) rest
      have htail := passDeclaratorTail_value h.assign hvalue hrest (some a.name)
      have hread := reads_lastDeclarator (reads_assignedName h previous (semicolon :: rest))
        (by rw [htail]; exact isPunctuator_eq_false hsemicolon "," (by decide))
      rw [htail] at hread
      refine ⟨a.tokens, [], by simp, ?_, rfl⟩
      simpa [collected, Assigned.tokens] using hread
  | @more comma a others tokens h hcomma hothers ih =>
    rw [List.append_assoc, List.cons_append]
    cases hbreaks : breaksOff 0 a.value with
    | true =>
      obtain ⟨passed, left, htokens, hread, hquiet⟩ :=
        reads_break h hbreaks previous (comma :: (tokens ++ semicolon :: rest))
      refine ⟨passed, left ++ comma :: tokens, by simp [htokens], ?_, ?_⟩
      · simpa [collected, hbreaks] using hread
      · rw [quietDepth_append hquiet, quietDepth_mark hcomma (by decide),
          quietDepth_assignments hothers]
    | false =>
      have hvalue := clear_of_not_breaksOff h.value hbreaks
      have hrest := startsWith_cons hcomma (show "," ∈ [",", ";"] by simp)
        (tokens ++ semicolon :: rest)
      have htail := passDeclaratorTail_value h.assign hvalue hrest (some a.name)
      obtain ⟨passed, left, htokens, hread, hquiet⟩ := ih (some comma)
      have hread := reads_moreDeclarators
        (reads_assignedName h previous (comma :: (tokens ++ semicolon :: rest)))
        (by rw [htail]; exact hcomma) (by rw [htail]; exact hread)
      refine ⟨a.tokens ++ comma :: passed, left, by simp [htokens], ?_, ?_⟩
      · simpa [collected, hbreaks] using hread
      · simpa using hquiet

end Reading

/-- The scan comes to the semicolon behind a declaration with the names of its declarators up to the
first with an initializer that breaks off. -/
theorem reaches_assignments {tokens : List Token} {recorded : List String} {depth : Nat}
    {previous : Option Token} {token word semicolon : Token} {assigned : List Assigned}
    {list rest : List Token}
    (hreach : Reaches tokens recorded depth
      ⟨previous, token :: word :: (list ++ semicolon :: rest)⟩)
    (hexport : startsExport (depthAfter depth token) previous token = true)
    (hword : atVariables ⟨some token, word :: (list ++ semicolon :: rest)⟩ = true)
    (hlist : Assignments assigned list) (hsemicolon : semicolon.isPunctuator ";" = true) :
    Reaches tokens (recorded ++ (collected assigned).map (·.name.value)) 0
      ⟨lastOf (some word) list, semicolon :: rest⟩ := by
  obtain ⟨passed, left, rfl, hread, hquiet⟩ :=
    reads_assignments hlist hsemicolon (some word) rest
  obtain ⟨hlast, hok⟩ := reads_statement hword hread
  have hresume := hreach.statement rfl hexport hok
  rw [depthAfter_of_startsExport hexport] at hresume
  rw [lastOf_append]
  exact reaches_quiet hresume hquiet

/-- An exported declaration of names with initializers that the scan comes to contributes the names
of its declarators up to the first with an initializer that breaks off, and scanning goes on at the
semicolon. These are all its names exactly if no initializer but the last breaks off. The exports of
the module are what was recorded before, these names and what is recorded from there on, each at its
first occurrence. -/
theorem collect_assignments {tokens : List Token} {recorded : List String} {depth : Nat}
    {previous : Option Token} {token word semicolon : Token} {assigned : List Assigned}
    {list rest : List Token}
    (hreach : Reaches tokens recorded depth
      ⟨previous, token :: word :: (list ++ semicolon :: rest)⟩)
    (hexport : startsExport (depthAfter depth token) previous token = true)
    (hword : atVariables ⟨some token, word :: (list ++ semicolon :: rest)⟩ = true)
    (hlist : Assignments assigned list) (hsemicolon : semicolon.isPunctuator ";" = true) :
    Reaches tokens (recorded ++ (collected assigned).map (·.name.value)) 0
        ⟨lastOf (some word) list, semicolon :: rest⟩ ∧
      (collect tokens).exports.toOption.map Bindings.names =
        (match scanFrom 0 ⟨lastOf (some word) list, semicolon :: rest⟩ with
        | ⟨later, .ok ()⟩ =>
          some (recorded ++ (collected assigned).map (·.name.value) ++ later).eraseDups
        | ⟨_, .error _⟩ => none) ∧
      (Reaches tokens (recorded ++ assigned.map (·.name.value)) 0
          ⟨lastOf (some word) list, semicolon :: rest⟩ ↔
        ∀ a ∈ assigned.dropLast, breaksOff 0 a.value = false) := by
  have hafter := reaches_assignments hreach hexport hword hlist hsemicolon
  refine ⟨hafter, exports_of_reaches hafter, ?_⟩
  rw [← collected_eq_self_iff]
  constructor
  · intro hall
    have hnames := List.append_cancel_left (recorded_of_reaches hafter hall)
    have hlength := congrArg List.length hnames
    rw [List.length_map, List.length_map] at hlength
    exact (collected_isPrefix assigned).eq_of_length hlength
  · intro hsame
    rwa [hsame] at hafter

def secondLineToken (kind : TokenClass) (column : Nat) (value : String) : Token :=
  ⟨kind, value, ⟨2, column⟩, column == 1⟩

/-- A function on a fresh line, assigned to `a`. -/
def freshFunction : Assigned where
  name := lineToken .name 14 "a"
  assign := lineToken .punctuator 16 "="
  value := [secondLineToken .name 1 "function", secondLineToken .punctuator 10 "(",
    secondLineToken .punctuator 11 ")", secondLineToken .punctuator 13 "\x7b",
    secondLineToken .punctuator 14 "\x7d"]

def plainNumber : Assigned where
  name := secondLineToken .name 17 "b"
  assign := secondLineToken .punctuator 19 "="
  value := [secondLineToken .number 21 "1"]

def sampleAssignments : List Token :=
  freshFunction.tokens ++ secondLineToken .punctuator 15 "," :: plainNumber.tokens

def sampleAssignedModule : List Token :=
  lineToken .name 1 "export" :: lineToken .name 8 "const" ::
    (sampleAssignments ++ [secondLineToken .punctuator 22 ";"])

theorem readTokens_assignedModule :
    readTokens "export const a =\nfunction () \x7b\x7d, b = 1;" = .ok sampleAssignedModule := by
  have hplain : Written.writesPlainly "export const a =\nfunction () \x7b\x7d, b = 1;"
      [.plain .name "" "export", .plain .name " " "const", .plain .name " " "a",
        .plain .punctuator " " "=", .plain .name "\n" "function", .plain .punctuator " " "(",
        .plain .punctuator "" ")", .plain .punctuator " " "\x7b", .plain .punctuator "" "\x7d",
        .plain .punctuator "" ",", .plain .name " " "b", .plain .punctuator " " "=",
        .plain .number " " "1", .plain .punctuator "" ";"] [] = true := by
    decide
  rw [Written.readTokens_of_writesPlainly hplain]
  exact congrArg Except.ok (by decide)

theorem assignments_sample : Assignments [freshFunction, plainNumber] sampleAssignments := by
  have hfunction : Clear stopsValue freshFunction.value :=
    .plain (by decide) (by decide) (by decide) <|
      @Clear.group _ _ _ [] _ (by decide) .nil (by decide) <|
        @Clear.group _ _ _ [] _ (by decide) .nil (by decide) .nil
  have hnumber : Clear stopsValue plainNumber.value :=
    .plain (by decide) (by decide) (by decide) .nil
  exact .more ⟨by decide, by decide, by decide, hfunction, by decide⟩ (by decide)
    (.one ⟨by decide, by decide, by decide, hnumber, by decide⟩)

theorem scanFrom_sampleEnd :
    scanFrom 0 ⟨lastOf (some (lineToken .name 8 "const")) sampleAssignments,
      [secondLineToken .punctuator 22 ";"]⟩ = ⟨[], .ok ()⟩ := by
  rw [scanFrom_pass rfl (by decide)]
  exact scanFrom_end rfl _

/-- The function is the first of two initializers, and it breaks off. -/
theorem collect_assignments_freshFunction :
    breaksOff 0 freshFunction.value = true ∧
      (collect sampleAssignedModule).exports.toOption.map Bindings.names = some ["a"] := by
  have hreach : Reaches sampleAssignedModule [] 0 ⟨none, sampleAssignedModule⟩ := .start
  have hcollected := (collect_assignments hreach (by decide) (by decide) assignments_sample
    (by decide)).2.1
  refine ⟨by decide, ?_⟩
  rw [hcollected, scanFrom_sampleEnd]
  decide

/-- The module declares `a` and `b`, but it exports `a` alone. -/
theorem exports_freshFunction :
    Assignments [freshFunction, plainNumber] sampleAssignments ∧
      readTokens "export const a =\nfunction () \x7b\x7d, b = 1;" = .ok sampleAssignedModule ∧
      (collectSource "export const a =\nfunction () \x7b\x7d, b = 1;").exports.toOption.map
        Bindings.names = some ["a"] := by
  refine ⟨assignments_sample, readTokens_assignedModule, ?_⟩
  have hreach : Reaches sampleAssignedModule [] 0 ⟨none, sampleAssignedModule⟩ := .start
  have hafter := reaches_assignments hreach (by decide) (by decide) assignments_sample (by decide)
  rw [collectSource, readTokens_assignedModule]
  rw [exports_of_reaches hafter, scanFrom_sampleEnd]
  decide

end RouteTable.Exports
