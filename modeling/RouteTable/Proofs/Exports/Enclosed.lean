import RouteTable.Proofs.Exports.Reach
import RouteTable.Proofs.Script.Symbols

/-!
What scanning passes over. Within brackets no statement exports anything, whatever its words are,
and outside of them only the word `export` starts a statement that does. The default export of an
expression records one name, and the expression is passed.
-/

namespace RouteTable.Exports

open Script

def tokenOf (symbol : Symbol) : Token :=
  ⟨symbol.1, symbol.2, .start, false⟩

/-- The number of open brackets after symbols, if no export statement starts among them. -/
def passedDepth (depth : Nat) : List Symbol → Option Nat
  | [] => some depth
  | symbol :: rest =>
    if depthAfter depth (tokenOf symbol) == 0 && (tokenOf symbol).isName "export" then none
    else passedDepth (depthAfter depth (tokenOf symbol)) rest

theorem passedDepth_append {depth inner : Nat} {first : List Symbol}
    (h : passedDepth depth first = some inner) (second : List Symbol) :
    passedDepth depth (first ++ second) = passedDepth inner second := by
  induction first generalizing depth with
  | nil =>
    cases h
    rfl
  | cons symbol rest ih =>
    rw [passedDepth] at h
    rw [List.cons_append, passedDepth]
    split at h
    · cases h
    · rename_i hplain
      rw [if_neg hplain]
      exact ih h

theorem passedDepth_flatMap {α : Type} {parts : List α} {symbols : α → List Symbol} {depth : Nat}
    (h : ∀ part ∈ parts, passedDepth depth (symbols part) = some depth) :
    passedDepth depth (parts.flatMap symbols) = some depth := by
  induction parts with
  | nil => rfl
  | cons part parts ih =>
    have hrest : ∀ part ∈ parts, passedDepth depth (symbols part) = some depth :=
      fun part hpart => h part (List.mem_cons_of_mem _ hpart)
    rw [List.flatMap_cons, passedDepth_append (h part List.mem_cons_self)]
    exact ih hrest

/-- Inside a bracket, symbols are passed whatever they are. -/
theorem passedDepth_of_nestSymbols {openers innermost : List Char} {symbols : List Symbol}
    (h : nestSymbols openers symbols = some innermost) :
    passedDepth (openers.length + 1) symbols = some (innermost.length + 1) := by
  induction symbols generalizing openers with
  | nil =>
    cases h
    rfl
  | cons symbol rest ih =>
    obtain ⟨next, hnext, hrest⟩ := Option.bind_eq_some_iff.1 h
    have hdepth : depthAfter (openers.length + 1) (tokenOf symbol) = next.length + 1 := by
      change (if (tokenOf symbol).isOpener = true then _
        else if (tokenOf symbol).isCloser = true then _ else _) = _ at hnext
      by_cases hopener : (tokenOf symbol).isOpener = true
      · rw [if_pos hopener] at hnext
        cases hnext
        rw [depthAfter, if_pos hopener, List.length_cons]
      · rw [if_neg hopener] at hnext
        by_cases hcloser : (tokenOf symbol).isCloser = true
        · rw [if_pos hcloser] at hnext
          cases openers with
          | nil => cases hnext
          | cons innermost outer =>
            simp only [Option.ite_none_right_eq_some, Option.some.injEq] at hnext
            rw [depthAfter, if_neg hopener, if_pos hcloser, ← hnext.2, List.length_cons,
              Nat.add_sub_cancel]
        · rw [if_neg hcloser] at hnext
          cases hnext
          rw [depthAfter, if_neg hopener, if_neg hcloser]
    rw [passedDepth, hdepth, if_neg (by simp)]
    exact ih hrest

theorem passedDepth_of_nested {symbols : List Symbol} (h : Nested symbols) (depth : Nat) :
    passedDepth (depth + 1) symbols = some (depth + 1) := by
  have hpassed := passedDepth_of_nestSymbols (h (List.replicate depth '('))
  rwa [List.length_replicate] at hpassed

/-- A scan comes through tokens that start no export statement. -/
theorem reaches_passed {all tokens rest : List Token} {recorded : List String} {depth inner : Nat}
    {previous : Option Token} (h : Reaches all recorded depth ⟨previous, tokens ++ rest⟩)
    (hpassed : passedDepth depth (tokens.map Token.symbol) = some inner) :
    Reaches all recorded inner ⟨lastOf previous tokens, rest⟩ := by
  induction tokens generalizing depth previous with
  | nil =>
    cases hpassed
    exact h
  | cons token tokens ih =>
    rw [List.map_cons, passedDepth] at hpassed
    split at hpassed
    · cases hpassed
    · rename_i hplain
      have hstarts : startsExport (depthAfter depth token) previous token = false := by
        change ¬ (depthAfter depth token == 0 && token.isName "export") = true at hplain
        rw [Bool.not_eq_true] at hplain
        rw [startsExport, hplain, Bool.false_and]
      have hnext := Reaches.pass h rfl hstarts
      rw [lastOf_cons]
      exact ih hnext hpassed

theorem readStatement_default {place : Place} (h : place.isName "default" = true) :
    ∃ hlt, readStatement place = ⟨["default"], .ok ⟨place.next, hlt⟩⟩ := by
  have hany := isAnyName_of_isName h
  have hvalue := value_of_isName h
  refine ⟨Place.remaining_next_lt_of_any hany, ?_⟩
  rw [readStatement, passDecorators_of_isAnyName hany]
  simp only [pure_bind, hany, dif_pos, hvalue]
  rfl

/-- A module whose only export statement is `export default` exports that name alone. -/
theorem scan_default {before after : List Token} {start word : Token} {depth : Nat}
    (hbefore : passedDepth 0 (before.map Token.symbol) = some 0)
    (haccess : before.getLast?.any Token.isAccess = false)
    (hstart : start.isName "export" = true) (hword : word.isName "default" = true)
    (hafter : passedDepth 0 (after.map Token.symbol) = some depth) :
    scan (before ++ start :: word :: after) = ⟨["default"], .ok ()⟩ := by
  have hreach : Reaches (before ++ start :: word :: after) [] 0
      ⟨lastOf none before, start :: word :: after⟩ :=
    reaches_passed Reaches.start hbefore
  have hlast : (lastOf none before).any Token.isAccess = false := by
    rwa [lastOf, Option.or_none]
  have hdepth : depthAfter 0 start = 0 := depthAfter_of_isName hstart 0
  have hstarts : startsExport (depthAfter 0 start) (lastOf none before) start = true := by
    rw [hdepth, startsExport, hstart, hlast]
    rfl
  have hplace : Place.isName ⟨some start, word :: after⟩ "default" = true := hword
  obtain ⟨hlt, hread⟩ := readStatement_default hplace
  have hbehind := Reaches.statement hreach rfl hstarts hread
  rw [hdepth] at hbehind
  have hend : Reaches (before ++ start :: word :: after) (["default"]) depth
      ⟨lastOf (some word) after, []⟩ := by
    apply reaches_passed _ hafter
    rw [List.append_nil]
    exact hbehind
  rw [scan_of_reaches hend, scanFrom_end rfl]
  rfl

end RouteTable.Exports
