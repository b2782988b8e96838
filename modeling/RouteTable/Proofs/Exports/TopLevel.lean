import RouteTable.Proofs.Exports.Statements
import RouteTable.Proofs.Script.Balance

/-!
Exports stand outside of all brackets. Where the brackets of a module are balanced, the scan counts
as many open ones as there are at each place it comes to, statements that it passes whole included,
so that a statement starts only at the word `export` outside of them.
-/

namespace RouteTable.Exports

open Script

variable {tokens : List Token}

theorem balanced_of_wellNested (h : WellNested tokens) : Balanced tokens := by
  induction h with
  | nil => exact .nil
  | plain hopener hcloser h ih => exact .plain hopener hcloser ih
  | group hpair hinner h ihInner ih => exact .group hpair.isOpener ihInner hpair.isCloser ih

theorem balanced_of_readTokens {source : String} (h : readTokens source = .ok tokens) :
    Balanced tokens :=
  balanced_of_wellNested (wellNested_of_readTokens h)

/-- Whether a token behind others is the word `export`, outside of all brackets that they open and
not as the name of a property. -/
def IsTopLevelExport (before : List Token) (token : Token) : Prop :=
  token.isName "export" = true ∧
    before.countP Token.isOpener = before.countP Token.isCloser ∧
      before.getLast?.any Token.isAccess = false

/-- What a scan keeps up: the tokens behind it are those before its place, and those to come close
as many brackets as it counts. -/
theorem closes_of_reaches (hbalanced : Balanced tokens) {recorded : List String} {depth : Nat}
    {place : Place} (h : Reaches tokens recorded depth place) :
    (∃ passed, tokens = passed ++ place.rest ∧ place.previous = lastOf none passed) ∧
      Closes depth place.rest := by
  induction h with
  | start => exact ⟨⟨[], rfl, rfl⟩, closes_of_balanced hbalanced⟩
  | @pass recorded depth place token h hfirst hplain ih =>
    obtain ⟨⟨passed, htokens, hprevious⟩, hcloses⟩ := ih
    obtain ⟨hrest, hnext⟩ := rest_of_first? hfirst
    rw [hrest] at htokens hcloses
    refine ⟨⟨passed ++ [token], ?_, ?_⟩, hcloses.2⟩
    · rw [htokens, List.append_assoc, List.singleton_append]
    · rw [hnext, lastOf_append, lastOf_cons, lastOf_nil]
  | @statement recorded names depth place token after h hfirst hexport hread ih =>
    obtain ⟨⟨passed, htokens, hprevious⟩, hcloses⟩ := ih
    obtain ⟨hrest, hnext⟩ := rest_of_first? hfirst
    have hstatement : Meets place.next.rest (readStatement place.next)
        fun later => Passes place.next later.1 0 0 :=
      meets_readStatement (List.Subset.refl _)
    have hpasses := hstatement.result after (by rw [hread])
    obtain ⟨further, hfurther, hlast⟩ := hpasses.tokens
    rw [hrest] at htokens hcloses
    refine ⟨⟨passed ++ token :: further, ?_, ?_⟩, ?_⟩
    · rw [htokens, hfurther, List.append_assoc, List.cons_append]
    · rw [hlast, hnext, lastOf_append, lastOf_cons]
    · -- A statement starts with no bracket open, and its reader leaves none open behind it.
      have hdepth := hcloses.2
      rw [depthAfter_of_startsExport hexport] at hdepth ⊢
      exact hpasses.depth 0 hdepth

/-- The scan counts the brackets that are open at its place, and starts a statement exactly at an
`export` outside of all. -/
theorem depth_of_reaches (hbalanced : Balanced tokens) {recorded : List String} {depth : Nat}
    {place : Place} (h : Reaches tokens recorded depth place) :
    ∃ passed, tokens = passed ++ place.rest ∧
      passed.countP Token.isCloser + depth = passed.countP Token.isOpener ∧
      ∀ token, place.first? = some token → (token.isCloser = true → 0 < depth) ∧
        (startsExport (depthAfter depth token) place.previous token = true ↔
          IsTopLevelExport passed token) := by
  obtain ⟨⟨passed, htokens, hprevious⟩, hcloses⟩ := closes_of_reaches hbalanced h
  have hcount : passed.countP Token.isCloser + depth = passed.countP Token.isOpener := by
    have hall := countP_of_closes (closes_of_balanced hbalanced)
    have hrest := countP_of_closes hcloses
    rw [htokens, List.countP_append, List.countP_append] at hall
    omega
  refine ⟨passed, htokens, hcount, ?_⟩
  intro token hfirst
  rw [(rest_of_first? hfirst).1] at hcloses
  refine ⟨hcloses.1, ?_⟩
  have hlast : place.previous = passed.getLast? := by
    rw [hprevious, lastOf, Option.or_none]
  have hdepth : depth = 0 ↔ passed.countP Token.isOpener = passed.countP Token.isCloser := by
    omega
  simp only [startsExport, IsTopLevelExport, Bool.and_eq_true, beq_iff_eq, Bool.not_eq_true',
    hlast, ← hdepth, and_assoc]
  constructor
  · rintro ⟨hinside, hname, haccess⟩
    rw [depthAfter_of_isName hname] at hinside
    exact ⟨hname, hinside, haccess⟩
  · rintro ⟨hname, hinside, haccess⟩
    rw [depthAfter_of_isName hname]
    exact ⟨hinside, hname, haccess⟩

/-- All that a scan records is named by the tokens. -/
theorem meets_scanFrom (depth : Nat) {place : Place} (hmem : place.rest ⊆ tokens) :
    Meets tokens (scanFrom depth place) fun _ => True := by
  rcases hfirst : place.first? with _ | token
  · rw [scanFrom_end hfirst]
    exact meets_pure trivial
  · have hnext := Place.remaining_next_lt hfirst
    have hmemNext : place.next.rest ⊆ tokens := by
      rw [(rest_of_first? hfirst).1] at hmem
      exact fun later hlater => hmem (List.mem_cons_of_mem _ hlater)
    by_cases hexport : startsExport (depthAfter depth token) place.previous token = true
    · rw [scanFrom_statement hfirst hexport]
      apply (meets_readStatement hmemNext).bind
      rintro ⟨after, hafter⟩ hpasses
      have hlt := Nat.lt_trans hafter hnext
      exact meets_scanFrom _ (hpasses.subset hmemNext)
    · rw [scanFrom_pass hfirst (Bool.eq_false_iff.2 hexport)]
      exact meets_scanFrom _ hmemNext
termination_by place.remaining
decreasing_by
  · exact hlt
  · exact hnext

/-- Without an `export` outside of all brackets, a scan passes all tokens and records nothing. -/
theorem scanFrom_of_noExport (hbalanced : Balanced tokens)
    (hnone : ∀ before token after, tokens = before ++ token :: after →
      ¬ IsTopLevelExport before token)
    {recorded : List String} {depth : Nat} {place : Place}
    (h : Reaches tokens recorded depth place) : scanFrom depth place = pure () := by
  rcases hfirst : place.first? with _ | token
  · exact scanFrom_end hfirst depth
  · have hnext := Place.remaining_next_lt hfirst
    obtain ⟨passed, htokens, -, htoken⟩ := depth_of_reaches hbalanced h
    have hplain : startsExport (depthAfter depth token) place.previous token = false := by
      rw [(rest_of_first? hfirst).1] at htokens
      rw [Bool.eq_false_iff, Ne, (htoken token hfirst).2]
      exact hnone passed token _ htokens
    rw [scanFrom_pass hfirst hplain]
    exact scanFrom_of_noExport hbalanced hnone (h.pass hfirst hplain)
termination_by place.remaining
decreasing_by
  exact hnext

/-- Only exports outside of all brackets are collected. The tokens of a source are balanced. At each
place that a scan of balanced tokens comes to, where it is what has been recorded up to there and
the scan from there on, it counts the brackets that are open there, never closes one that is not
open, and starts a statement exactly at the word `export` outside of all brackets that is not a
property. What it records is the main value's name or a name or string of the module, and a module
without such an `export` exports nothing. -/
theorem collect_topLevel :
    (∀ source tokens, readTokens source = .ok tokens → Balanced tokens) ∧
    ∀ tokens, Balanced tokens →
      (∀ recorded depth place, Reaches tokens recorded depth place →
        scan tokens = ((⟨recorded, .ok ()⟩ : Scan Unit) >>= fun _ => scanFrom depth place) ∧
        ∃ passed, tokens = passed ++ place.rest ∧
          passed.countP Token.isCloser + depth = passed.countP Token.isOpener ∧
          ∀ token, place.first? = some token → (token.isCloser = true → 0 < depth) ∧
            (startsExport (depthAfter depth token) place.previous token = true ↔
              IsTopLevelExport passed token)) ∧
      (∀ name ∈ (collect tokens).recorded, Named tokens name) ∧
      ((∀ before token after, tokens = before ++ token :: after →
          ¬ IsTopLevelExport before token) →
        (collect tokens).exports = .ok .empty) := by
  refine ⟨fun _ _ => balanced_of_readTokens, fun tokens hbalanced => ⟨?_, ?_, ?_⟩⟩
  · intro recorded depth place hreaches
    exact ⟨scan_of_reaches hreaches, depth_of_reaches hbalanced hreaches⟩
  · intro name hname
    have hscan : Meets tokens (scan tokens) fun _ => True :=
      meets_scanFrom 0 (List.Subset.refl tokens)
    apply hscan.named
    rw [collect] at hname
    split at hname
    · rename_i heq
      rwa [heq]
    · rename_i heq
      rwa [heq]
  · intro hnone
    have hscan : scan tokens = pure () := scanFrom_of_noExport hbalanced hnone .start
    rw [collect, hscan]
    rfl

/-- The tokens of `{ export } module.export`. -/
def enclosedExports : List Token :=
  [⟨.punctuator, "\x7b", ⟨1, 1⟩, false⟩, ⟨.name, "export", ⟨1, 3⟩, false⟩,
    ⟨.punctuator, "\x7d", ⟨1, 10⟩, false⟩, ⟨.name, "module", ⟨1, 12⟩, false⟩,
    ⟨.punctuator, ".", ⟨1, 18⟩, false⟩, ⟨.name, "export", ⟨1, 19⟩, false⟩]

theorem readTokens_enclosedExports :
    readTokens "\x7b export \x7d module.export" = .ok enclosedExports := by
  have hplain : Written.writesPlainly "\x7b export \x7d module.export"
      [.plain .punctuator "" "\x7b", .plain .name " " "export", .plain .punctuator " " "\x7d",
        .plain .name " " "module", .plain .punctuator "" ".", .plain .name "" "export"] [] =
          true := by
    decide
  rw [Written.readTokens_of_writesPlainly hplain]
  exact congrArg Except.ok (by decide)

theorem not_isTopLevelExport_enclosedExports (before : List Token) (token : Token)
    (after : List Token) (h : enclosedExports = before ++ token :: after) :
    ¬ IsTopLevelExport before token := by
  have hlength : before.length < enclosedExports.length := by
    rw [h, List.length_append, List.length_cons]
    omega
  have hbefore : enclosedExports.take before.length = before := by
    rw [h, List.take_left]
  have htoken : enclosedExports[before.length]? = some token := by
    rw [h, List.getElem?_append_right (Nat.le_refl _), Nat.sub_self, List.getElem?_cons_zero]
  have hnone : ∀ i < enclosedExports.length, ∀ found ∈ enclosedExports[i]?,
      ¬ IsTopLevelExport (enclosedExports.take i) found := by
    unfold IsTopLevelExport
    decide
  rw [← hbefore]
  exact hnone _ hlength token htoken

/-- Behind the brace, where the scan goes on, one bracket is open, and no `export` of the module
starts a statement. -/
theorem collect_topLevel_enclosedExports :
    readTokens "\x7b export \x7d module.export" = .ok enclosedExports ∧
    Balanced enclosedExports ∧
    scan enclosedExports = scanFrom 1 ⟨enclosedExports.head?, enclosedExports.drop 1⟩ ∧
    (∃ passed, enclosedExports = passed ++ enclosedExports.drop 1 ∧
      passed.countP Token.isCloser + 1 = passed.countP Token.isOpener) ∧
    (collect enclosedExports).exports = .ok .empty := by
  have hbalanced : Balanced enclosedExports := collect_topLevel.1 _ _ readTokens_enclosedExports
  have hall := collect_topLevel.2 enclosedExports hbalanced
  have hbrace : startsExport (depthAfter 0 enclosedExports[0]) none enclosedExports[0] = false := by
    decide
  have hreaches : Reaches enclosedExports [] 1 ⟨enclosedExports.head?, enclosedExports.drop 1⟩ :=
    Reaches.pass .start rfl hbrace
  obtain ⟨hscan, passed, htokens, hcount, -⟩ := hall.1 _ _ _ hreaches
  exact ⟨readTokens_enclosedExports, hbalanced, hscan, ⟨passed, htokens, hcount⟩,
    hall.2.2 not_isTopLevelExport_enclosedExports⟩

end RouteTable.Exports
