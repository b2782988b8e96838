import RouteTable.Proofs.Exports.Initializer
import RouteTable.Proofs.Exports.Patterns

/-!
Exported declarations of variables. Their declarators are read one after another: the scan records
the names that the patterns bind and no others, and goes on at the semicolon.
-/

namespace RouteTable.Exports

open Script

/-- A declarator, and the names that it binds, in order. -/
inductive Declarator : List Token → List String → Prop where
  | intro {pattern asserted annotated initialized : List Token} {names : List String}
      (h : Binds .pattern pattern names) (hasserted : Optionally "!" (· = []) asserted)
      (hannotated : Optionally ":" (Clear stopsType) annotated)
      (hinitialized : Optionally "=" (Clear stopsInitializer) initialized) :
      Declarator (pattern ++ (asserted ++ (annotated ++ initialized))) names

/-- Declarators with commas between them, and the names that they bind, in order. -/
inductive Declarators : List Token → List String → Prop where
  | one {tokens : List Token} {names : List String} (h : Declarator tokens names) :
      Declarators tokens names
  | more {comma : Token} {first others : List Token} {names more : List String}
      (h : Declarator first names) (hcomma : comma.isPunctuator "," = true)
      (hothers : Declarators others more) :
      Declarators (first ++ comma :: others) (names ++ more)

section Declaration

variable {place middle last : Place} {names more : List String}

theorem reads_lastDeclarator (h : Reads (bindingTarget place) names middle)
    (hcomma : (passDeclaratorTail middle).isPunctuator "," = false) :
    Reads (declarators place) names (passDeclaratorTail middle) := by
  rw [declarators]
  apply h.bind_pure
  intro hmiddle
  simp only [hcomma, Bool.false_eq_true, if_false]
  exact reads_pure _

theorem reads_moreDeclarators (h : Reads (bindingTarget place) names middle)
    (hcomma : (passDeclaratorTail middle).isPunctuator "," = true)
    (hothers : Reads (declarators (passDeclaratorTail middle).next) more last) :
    Reads (declarators place) (names ++ more) last := by
  rw [declarators]
  apply h.bind
  intro hmiddle
  simp only [hcomma, if_true]
  exact hothers.bind_pure fun hlast => reads_pure _

/-- A list of declarators is read up to the semicolon behind it. -/
theorem reads_declarators {tokens rest : List Token} (h : Declarators tokens names)
    (hrest : StartsWith [";"] rest) (previous : Option Token) :
    Reads (declarators ⟨previous, tokens ++ rest⟩) names ⟨lastOf previous tokens, rest⟩ := by
  induction h generalizing previous with
  | one h =>
    cases h with
    | @intro pattern asserted annotated initialized _ h hasserted hannotated hinitialized =>
      have htokens : pattern ++ (asserted ++ (annotated ++ initialized)) ++ rest =
          pattern ++ (asserted ++ (annotated ++ (initialized ++ rest))) := by
        simp
      have hpattern := reads_of_binds h previous (asserted ++ (annotated ++ (initialized ++ rest)))
        (by simp)
      have htail := passDeclaratorTail_append hasserted hannotated hinitialized
        (hrest.mono (by simp)) (lastOf previous pattern)
      have hread := reads_lastDeclarator hpattern
        (by rw [htail]; exact hrest.isPunctuator_eq_false "," (by decide) _)
      rw [htail] at hread
      rw [htokens, lastOf_append]
      exact hread
  | @more comma first others names more h hcomma hothers ih =>
    cases h with
    | @intro pattern asserted annotated initialized _ h hasserted hannotated hinitialized =>
      have htokens :
          pattern ++ (asserted ++ (annotated ++ initialized)) ++ comma :: others ++ rest =
          pattern ++ (asserted ++ (annotated ++ (initialized ++ comma :: (others ++ rest)))) := by
        simp
      have hpattern := reads_of_binds h previous
        (asserted ++ (annotated ++ (initialized ++ comma :: (others ++ rest)))) (by simp)
      have htail := passDeclaratorTail_append hasserted hannotated hinitialized
        (startsWith_cons hcomma (by simp) (others ++ rest)) (lastOf previous pattern)
      have hread := reads_moreDeclarators hpattern (by rw [htail]; exact hcomma)
        (by rw [htail]; exact ih (some comma))
      rw [htokens, lastOf_append, lastOf_cons]
      exact hread

theorem reads_statement (hword : atVariables place = true)
    (h : Reads (declarators place.next) names last) : Reads (readStatement place) names last := by
  rw [readStatement_eq_declarators hword, map_eq_pure_bind]
  exact h.bind_pure fun hlast => reads_pure _

end Declaration

/-- A set of names has each name once, at its first occurrence. -/
theorem names_ofList (names : List String) : (Bindings.ofList names).names = names.eraseDups := by
  induction names using List.reverseRecOn with
  | nil => rfl
  | append_singleton names name ih =>
    have hinsert : Bindings.ofList (names ++ [name]) = (Bindings.ofList names).insert name := by
      simp [Bindings.ofList, Bindings.insertAll]
    rw [hinsert, Bindings.names_insert, ih, List.eraseDups_append]
    by_cases hmem : name ∈ names
    · simp [List.removeAll, hmem]
    · simp [List.removeAll, hmem, List.eraseDups_cons]

/-- The exports of a module are what was recorded up to a place that its scan comes to and what is
recorded from there on, each at its first occurrence. -/
theorem exports_of_reaches {tokens : List Token} {recorded : List String} {depth : Nat}
    {place : Place} (h : Reaches tokens recorded depth place) :
    (collect tokens).exports.toOption.map Bindings.names =
      match scanFrom depth place with
      | ⟨later, .ok ()⟩ => some (recorded ++ later).eraseDups
      | ⟨_, .error _⟩ => none := by
  rw [exports_collect, scan_of_reaches h, exportsAfter_bind, List.nil_append]
  cases scanFrom depth place with
  | mk later outcome =>
    cases outcome with
    | error e => rfl
    | ok done => exact congrArg some (names_ofList _)

/-- An exported declaration of variables that the scan comes to contributes just the names that its
patterns bind, in their order, and scanning goes on at the semicolon. The exports of the module are
what was recorded before, these names and what is recorded from there on, each at its first
occurrence. -/
theorem collect_declaration {tokens : List Token} {recorded names : List String} {depth : Nat}
    {previous : Option Token} {token word semicolon : Token} {list rest : List Token}
    (hreach : Reaches tokens recorded depth
      ⟨previous, token :: word :: (list ++ semicolon :: rest)⟩)
    (hexport : startsExport (depthAfter depth token) previous token = true)
    (hword : atVariables ⟨some token, word :: (list ++ semicolon :: rest)⟩ = true)
    (hlist : Declarators list names) (hsemicolon : semicolon.isPunctuator ";" = true) :
    Reads (readStatement ⟨some token, word :: (list ++ semicolon :: rest)⟩) names
        ⟨lastOf (some word) list, semicolon :: rest⟩ ∧
      Reaches tokens (recorded ++ names) 0 ⟨lastOf (some word) list, semicolon :: rest⟩ ∧
      (collect tokens).exports.toOption.map Bindings.names =
        match scanFrom 0 ⟨lastOf (some word) list, semicolon :: rest⟩ with
        | ⟨later, .ok ()⟩ => some (recorded ++ names ++ later).eraseDups
        | ⟨_, .error _⟩ => none := by
  have hstatement : Reads (readStatement ⟨some token, word :: (list ++ semicolon :: rest)⟩) names
      ⟨lastOf (some word) list, semicolon :: rest⟩ := by
    apply reads_statement hword
    exact reads_declarators hlist (startsWith_cons hsemicolon (by simp) rest) (some word)
  have hafter : Reaches tokens (recorded ++ names) 0
      ⟨lastOf (some word) list, semicolon :: rest⟩ := by
    obtain ⟨hlast, hread⟩ := hstatement
    have hresume := hreach.statement rfl hexport hread
    rwa [depthAfter_of_startsExport hexport] at hresume
  refine ⟨hstatement, hafter, ?_⟩
  rw [exports_collect, scan_of_reaches hafter, exportsAfter_bind, List.nil_append]
  cases scanFrom 0 ⟨lastOf (some word) list, semicolon :: rest⟩ with
  | mk later outcome =>
    cases outcome with
    | error e => rfl
    | ok done => exact congrArg some (names_ofList _)

def sampleProperties : List Token :=
  [lineToken .name 14 "a", lineToken .punctuator 15 ",", lineToken .name 17 "k",
    lineToken .punctuator 18 ":", lineToken .punctuator 20 "[", lineToken .name 21 "b",
    lineToken .punctuator 22 ",", lineToken .punctuator 24 "...", lineToken .name 27 "a",
    lineToken .punctuator 28 "]", lineToken .punctuator 30 "=", lineToken .name 32 "d",
    lineToken .punctuator 34 "\x7d"]

def sampleInitializer : List Token :=
  [lineToken .punctuator 36 "=", lineToken .name 38 "e"]

def sampleTail : List Token :=
  [lineToken .punctuator 42 "!", lineToken .punctuator 43 ":", lineToken .name 45 "T",
    lineToken .punctuator 47 "=", lineToken .name 49 "h"]

def sampleDeclarators : List Token :=
  lineToken .punctuator 12 "\x7b" :: sampleProperties ++ sampleInitializer ++
    lineToken .punctuator 39 "," :: lineToken .name 41 "g" :: sampleTail

/-- `export let \x7b a, k: [b, ...a] = d \x7d = e, g!: T = h;` -/
def sampleDeclaration : List Token :=
  lineToken .name 1 "export" :: lineToken .name 8 "let" ::
    (sampleDeclarators ++ [lineToken .punctuator 50 ";"])

theorem binds_sampleProperties : Binds .properties sampleProperties ["a", "b", "a"] := by
  have hlast : Binds .elements ([lineToken .punctuator 24 "..."] ++
      ([lineToken .name 27 "a"] ++ ([] ++ [lineToken .punctuator 28 "]"]))) ["a"] :=
    .lastElement (.present (by decide) rfl) (.name (by decide)) .absent (by decide)
  have helements : Binds .elements ([] ++ ([lineToken .name 21 "b"] ++
      ([] ++ lineToken .punctuator 22 "," :: _))) (["b"] ++ ["a"]) :=
    .moreElements .absent (.name (by decide)) .absent (by decide) hlast
  have hdefault : Default [lineToken .punctuator 30 "=", lineToken .name 32 "d"] :=
    .present (by decide) (.plain (by decide) (by decide) (by decide) .nil)
  have hkeyed : Binds .property ([lineToken .name 17 "k"] ++ lineToken .punctuator 18 ":" ::
      ((lineToken .punctuator 20 "[" :: _) ++ _)) ["b", "a"] :=
    .keyed (.plain (by decide)) (by decide) (.array (by decide) helements) hdefault
  have hshorthand : Binds .property [lineToken .name 14 "a"] ["a"] :=
    .shorthand (by decide) .absent
  exact .moreProperties hshorthand (by decide) (.lastProperty hkeyed (by decide))

theorem declarators_sampleDeclarators :
    Declarators sampleDeclarators ["a", "b", "a", "g"] := by
  have hvalue : Optionally "=" (Clear stopsInitializer) sampleInitializer :=
    .present (by decide) (.plain (by decide) (by decide) (by decide) .nil)
  have hfirst : Declarator (lineToken .punctuator 12 "\x7b" :: sampleProperties ++
      ([] ++ ([] ++ sampleInitializer))) ["a", "b", "a"] :=
    .intro (.object (by decide) binds_sampleProperties) .absent .absent hvalue
  have hsecond : Declarator ([lineToken .name 41 "g"] ++ ([lineToken .punctuator 42 "!"] ++
      ([lineToken .punctuator 43 ":", lineToken .name 45 "T"] ++
        [lineToken .punctuator 47 "=", lineToken .name 49 "h"]))) ["g"] :=
    .intro (.name (by decide)) (.present (by decide) rfl)
      (.present (by decide) (.plain (by decide) (by decide) (by decide) .nil))
      (.present (by decide) (.plain (by decide) (by decide) (by decide) .nil))
  exact .more hfirst (by decide) (.one hsecond)

/-- A name that is bound twice counts once, where it stands first. -/
theorem collect_declaration_nestedPatterns :
    (collect sampleDeclaration).exports.toOption.map Bindings.names = some ["a", "b", "g"] := by
  have hreach : Reaches sampleDeclaration [] 0 ⟨none, lineToken .name 1 "export" ::
      lineToken .name 8 "let" :: (sampleDeclarators ++ [lineToken .punctuator 50 ";"])⟩ := .start
  have hcollected := (collect_declaration hreach (by decide) (by decide)
    declarators_sampleDeclarators (by decide)).2.2
  have hend : scanFrom 0 ⟨lastOf (some (lineToken .name 8 "let")) sampleDeclarators,
      [lineToken .punctuator 50 ";"]⟩ = ⟨[], .ok ()⟩ := by
    rw [scanFrom_pass rfl (by decide)]
    exact scanFrom_end rfl _
  rw [hcollected, hend]
  decide

end RouteTable.Exports
