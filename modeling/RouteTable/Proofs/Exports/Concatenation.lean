import RouteTable.Proofs.Exports.Semicolon

/-!
Modules one behind another, with a semicolon between them: the exports of both are those of the
first, followed by those of the second that the first does not have, and a failure is the second's.
The first module must not leave a type annotation with an angle bracket open, which would go on into
the second.
-/

namespace RouteTable.Bindings

/-- Adding names one after another adds those that are not in the set, each once. -/
theorem names_insertAll (bindings : Bindings) (names : List String) :
    (bindings.insertAll names).names =
      bindings.names ++ (ofList names).names.filter (· ∉ bindings.names) := by
  induction names using List.reverseRecOn with
  | nil => simp [insertAll, ofList]
  | append_singleton names name ih =>
    have hlast : ∀ start : Bindings,
        start.insertAll (names ++ [name]) = (start.insertAll names).insert name := by
      intro start
      rw [insertAll, List.foldl_append]
      rfl
    rw [ofList, hlast, hlast, names_insert, names_insert, ih, ← ofList]
    by_cases hmem : name ∈ (ofList names).names
    · have hadded : name ∈ bindings.names ++
          (ofList names).names.filter (· ∉ bindings.names) := by
        by_cases hold : name ∈ bindings.names
        · exact List.mem_append_left _ hold
        · exact List.mem_append_right _ (List.mem_filter.2 ⟨hmem, by simpa using hold⟩)
      rw [if_pos hmem, if_pos hadded]
    · by_cases hold : name ∈ bindings.names
      · simp [hmem, hold]
      · simp [hmem, hold]

theorem names_ofList_append (first second : List String) :
    (ofList (first ++ second)).names = (ofList first).names ++
      (ofList second).names.filter (· ∉ (ofList first).names) := by
  have happend : ofList (first ++ second) = (ofList first).insertAll second := by
    rw [ofList, insertAll, List.foldl_append]
    rfl
  rw [happend, names_insertAll]

end RouteTable.Bindings

namespace RouteTable.Exports

open Script

variable {tokens : List Token}

/-- The exports of a module are the names that its scan records, where it succeeds. -/
theorem exports_collect_eq_ok_iff {names : Bindings} :
    (collect tokens).exports = .ok names ↔
      ∃ recorded, scan tokens = ⟨recorded, .ok ()⟩ ∧ names = .ofList recorded := by
  rw [collect]
  rcases scan tokens with ⟨recorded, e | ⟨⟩⟩
  · simp [Inventory.exports]
  · simp [Inventory.exports, eq_comm]

/-- The failure of a module is the one that its scan stops with, shown at the last token where the
scan gives no position. -/
theorem exports_collect_eq_error_iff {failure : InventoryError} :
    (collect tokens).exports = .error failure ↔
      ∃ recorded e, scan tokens = ⟨recorded, .error e⟩ ∧
        failure = ⟨e.position.getD ((tokens.getLast?.map Token.position).getD .start),
          .statement e.rule⟩ := by
  rw [collect]
  rcases scan tokens with ⟨recorded, e | ⟨⟩⟩
  · simp [Inventory.exports, eq_comm]
  · simp [Inventory.exports]

/-- What stands before a place counts only for an `export` behind a point. -/
theorem scanFrom_previous {previous previous' : Option Token} (depth : Nat)
    (h : previous.any Token.isAccess = previous'.any Token.isAccess) (tokens : List Token) :
    scanFrom depth ⟨previous, tokens⟩ = scanFrom depth ⟨previous', tokens⟩ := by
  rcases tokens with _ | ⟨token, rest⟩
  · rw [scanFrom_end rfl, scanFrom_end rfl]
  · have hfirst : Place.first? ⟨previous, token :: rest⟩ = some token := rfl
    have hfirst' : Place.first? ⟨previous', token :: rest⟩ = some token := rfl
    have hstarts : startsExport (depthAfter depth token) previous token =
        startsExport (depthAfter depth token) previous' token := by
      rw [startsExport, startsExport, h]
    by_cases hexport : startsExport (depthAfter depth token) previous' token = true
    · rw [scanFrom_statement hfirst (hstarts.trans hexport), scanFrom_statement hfirst' hexport]
      rfl
    · rw [Bool.not_eq_true] at hexport
      rw [scanFrom_pass hfirst (hstarts.trans hexport), scanFrom_pass hfirst' hexport]
      rfl

/-- A semicolon outside of all brackets is passed, and what follows is scanned as a module. -/
theorem scanFrom_semicolon {semicolon : Token} (hsemicolon : semicolon.isPunctuator ";" = true)
    (previous : Option Token) (after : List Token) :
    scanFrom 0 ⟨previous, semicolon :: after⟩ = scan after := by
  have hinert := isInert_of_isPunctuator (.inl rfl) hsemicolon
  obtain ⟨hkind, hvalue⟩ := kind_of_isPunctuator hsemicolon
  have hdepth : depthAfter 0 semicolon = 0 :=
    depthAfter_plain hinert.opener (Bool.eq_false_iff.2 (by simp [Token.isCloser, hkind, hvalue])) 0
  have hplain : startsExport (depthAfter 0 semicolon) previous semicolon = false := by
    simp [startsExport, Token.isName, hkind]
  have haccess :
      (some semicolon).any Token.isAccess = (none : Option Token).any Token.isAccess := by
    simp [Token.isAccess, Token.isPunctuator, hvalue]
  have hfirst : Place.first? ⟨previous, semicolon :: after⟩ = some semicolon := rfl
  rw [scanFrom_pass hfirst hplain, hdepth]
  exact scanFrom_previous 0 haccess after

/-- From each place that scanning the first tokens comes to, it goes on the same way with a
semicolon and more tokens behind, up to the semicolon. -/
theorem scanFrom_followedBy {more : List Token} (hmore : StartsWithSemicolon more)
    (hbalanced : Balanced tokens) (hclosed : AnnotationsClose tokens) {recorded : List String}
    {depth : Nat} {place : Place} (h : Reaches tokens recorded depth place)
    (haccepted : (scanFrom depth place).outcome = .ok ()) :
    ∃ previous, scanFrom depth (place.followedBy more) =
      scanFrom depth place >>= fun _ => scanFrom 0 ⟨previous, more⟩ := by
  obtain ⟨-, hcloses⟩ := closes_of_reaches hbalanced h
  rcases hfirst : place.first? with _ | token
  · -- The brackets of the first tokens are balanced, so that none is open at the semicolon.
    have hrest := rest_eq_nil_of_first? hfirst
    rw [hrest] at hcloses
    have hdepth : depth = 0 := hcloses
    refine ⟨place.previous, ?_⟩
    rw [scanFrom_end hfirst, pure_bind, hdepth, Place.followedBy, hrest, List.nil_append]
  · have hnext := Place.remaining_next_lt hfirst
    have hfirst' : (place.followedBy more).first? = some token := first?_followedBy hfirst
    have hnext' : (place.followedBy more).next = place.next.followedBy more :=
      next_followedBy hfirst
    rw [(rest_of_first? hfirst).1] at hcloses
    by_cases hexport : startsExport (depthAfter depth token) place.previous token = true
    · have hagrees := goesOn_readStatement hmore hnext' hcloses.2
        fun start => hclosed _ _ _ _ start h hfirst hexport
      rw [scanFrom_statement hfirst hexport] at haccepted ⊢
      rw [scanFrom_statement hfirst' hexport]
      obtain ⟨after, hread, haccepted⟩ := Reporting.outcome_bind_eq_ok_iff.1 haccepted
      obtain ⟨⟨_, hafter'⟩, hread', rfl⟩ := hagrees after hread
      have hstatement : readStatement place.next =
          ⟨(readStatement place.next).reports, .ok after⟩ := by
        rw [← hread]
      have hlt := Nat.lt_trans after.2 hnext
      obtain ⟨previous, hlater⟩ := scanFrom_followedBy hmore hbalanced hclosed
        (h.statement hfirst hexport hstatement) haccepted
      refine ⟨previous, ?_⟩
      rw [hread', hstatement, bind_assoc, Reporting.bind_ok, Reporting.bind_ok, hlater]
    · rw [Bool.not_eq_true] at hexport
      rw [scanFrom_pass hfirst hexport] at haccepted ⊢
      rw [scanFrom_pass hfirst' hexport, hnext']
      exact scanFrom_followedBy hmore hbalanced hclosed (h.pass hfirst hexport) haccepted
termination_by place.remaining
decreasing_by
  · exact hlt
  · exact hnext

/-- The scan of two modules with a semicolon between them is the scan of the first, and then the
scan of the second. -/
theorem scan_append_semicolon {before after : List Token} {semicolon : Token}
    (hsemicolon : semicolon.isPunctuator ";" = true) (hbalanced : Balanced before)
    (hclosed : AnnotationsClose before) (haccepted : (scan before).outcome = .ok ()) :
    scan (before ++ semicolon :: after) = scan before >>= fun _ => scan after := by
  have hmore : StartsWithSemicolon (semicolon :: after) := ⟨semicolon, after, rfl, hsemicolon⟩
  obtain ⟨previous, hscan⟩ := scanFrom_followedBy hmore hbalanced hclosed .start haccepted
  rw [scanFrom_semicolon hsemicolon] at hscan
  exact hscan

/-- Collecting exports is compositional at semicolons. -/
theorem collect_append_semicolon {before after : List Token} {semicolon : Token}
    {names : Bindings} (hsemicolon : semicolon.isPunctuator ";" = true)
    (hbalanced : Balanced before) (hclosed : AnnotationsClose before)
    (haccepted : (collect before).exports = .ok names) :
    (∀ more, (collect after).exports = .ok more →
      ∃ all, (collect (before ++ semicolon :: after)).exports = .ok all ∧
        all.names = names.names ++ more.names.filter (· ∉ names.names)) ∧
    ∀ e, (collect after).exports = .error e →
      (collect (before ++ semicolon :: after)).exports = .error e := by
  obtain ⟨recorded, hbefore, rfl⟩ := exports_collect_eq_ok_iff.1 haccepted
  have hscan : scan (before ++ semicolon :: after) =
      ⟨recorded ++ (scan after).reports, (scan after).outcome⟩ := by
    rw [scan_append_semicolon hsemicolon hbalanced hclosed (by rw [hbefore]), hbefore,
      Reporting.bind_ok]
  constructor
  · intro more hafter
    obtain ⟨further, hlater, rfl⟩ := exports_collect_eq_ok_iff.1 hafter
    rw [hlater] at hscan
    exact ⟨.ofList (recorded ++ further), exports_collect_eq_ok_iff.2 ⟨_, hscan, rfl⟩,
      Bindings.names_ofList_append recorded further⟩
  · intro failure hafter
    obtain ⟨further, e, hlater, rfl⟩ := exports_collect_eq_error_iff.1 hafter
    rw [hlater] at hscan
    refine exports_collect_eq_error_iff.2 ⟨_, e, hscan, ?_⟩
    -- The second module is not empty, so that its last token is the last one of both.
    rcases after with _ | ⟨token, rest⟩
    · rw [scan, scanFrom_end rfl] at hlater
      cases hlater
    · rw [List.getLast?_append, List.getLast?_cons_cons, List.getLast?_cons, Option.some_or]

/-- The tokens of `export const a: Map<K, V> = x`. -/
def typedConstant : List Token :=
  [⟨.name, "export", ⟨1, 1⟩, false⟩, ⟨.name, "const", ⟨1, 8⟩, false⟩,
    ⟨.name, "a", ⟨1, 14⟩, false⟩, ⟨.punctuator, ":", ⟨1, 15⟩, false⟩,
    ⟨.name, "Map", ⟨1, 17⟩, false⟩, ⟨.punctuator, "<", ⟨1, 20⟩, false⟩,
    ⟨.name, "K", ⟨1, 21⟩, false⟩, ⟨.punctuator, ",", ⟨1, 22⟩, false⟩,
    ⟨.name, "V", ⟨1, 24⟩, false⟩, ⟨.punctuator, ">", ⟨1, 25⟩, false⟩,
    ⟨.punctuator, "=", ⟨1, 27⟩, false⟩, ⟨.name, "x", ⟨1, 29⟩, false⟩]

/-- The tokens of `export { c, a }`, on the line below. -/
def exportedPair : List Token :=
  [⟨.name, "export", ⟨2, 1⟩, true⟩, ⟨.punctuator, "\x7b", ⟨2, 8⟩, false⟩,
    ⟨.name, "c", ⟨2, 10⟩, false⟩, ⟨.punctuator, ",", ⟨2, 11⟩, false⟩,
    ⟨.name, "a", ⟨2, 13⟩, false⟩, ⟨.punctuator, "\x7d", ⟨2, 15⟩, false⟩]

theorem balanced_typedConstant : Balanced typedConstant := by
  unfold typedConstant
  repeat
    apply Balanced.plain (by decide) (by decide)
  exact Balanced.nil

theorem annotationsClose_typedConstant : AnnotationsClose typedConstant := by
  apply annotationsClose_of_ends balanced_typedConstant
  decide +kernel

theorem scan_typedConstant : scan typedConstant = ⟨["a"], .ok ()⟩ := by
  have hend : (passDeclaratorTail
      ⟨some ⟨.name, "a", ⟨1, 14⟩, false⟩, typedConstant.drop 3⟩).first? = none := by
    decide +kernel
  have hbehind : scanAfterDeclarator (passDeclaratorTail
      ⟨some ⟨.name, "a", ⟨1, 14⟩, false⟩, typedConstant.drop 3⟩) = pure () := by
    rw [scanAfterDeclarator, Place.isPunctuator, hend, if_neg (by exact Bool.false_ne_true),
      scanFrom_end hend]
  have hdeclarators : scan typedConstant = scanDeclarators
      ⟨some ⟨.name, "const", ⟨1, 8⟩, false⟩, typedConstant.drop 2⟩ :=
    scanFrom_variables rfl (by decide) (by decide)
  rw [hdeclarators, scanDeclarators_name rfl (by decide)]
  exact congrArg (fun rest => (⟨["a"], .ok ()⟩ : Scan Unit) >>= fun _ => rest) hbehind

theorem exports_typedConstant : (collect typedConstant).exports = .ok (.ofList ["a"]) :=
  exports_collect_eq_ok_iff.2 ⟨["a"], scan_typedConstant, rfl⟩

theorem scan_exportedPair : scan exportedPair = ⟨["c", "a"], .ok ()⟩ := by
  have houtcome : (scan exportedPair).outcome = .ok () := by decide +kernel
  have hreports : (scan exportedPair).reports = ["c", "a"] := by decide +kernel
  rw [← hreports, ← houtcome]

theorem exports_exportedPair : (collect exportedPair).exports = .ok (.ofList ["c", "a"]) :=
  exports_collect_eq_ok_iff.2 ⟨["c", "a"], scan_exportedPair, rfl⟩

/-- Behind the constant, only the first name of the list is new. -/
theorem collect_append_semicolon_typedConstant :
    Balanced typedConstant ∧ AnnotationsClose typedConstant ∧
      ∃ all, (collect (typedConstant ++
          ⟨.punctuator, ";", ⟨1, 30⟩, false⟩ :: exportedPair)).exports = .ok all ∧
        all.names = ["a", "c"] := by
  refine ⟨balanced_typedConstant, annotationsClose_typedConstant, ?_⟩
  exact (collect_append_semicolon rfl balanced_typedConstant annotationsClose_typedConstant
    exports_typedConstant).1 _ exports_exportedPair

end RouteTable.Exports
