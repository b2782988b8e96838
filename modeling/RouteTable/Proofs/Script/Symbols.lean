import RouteTable.Proofs.Script.Written
import RouteTable.Script.Literal

/-!
Tokens by their kinds and values alone, which is all that the nesting of brackets and the scanning
for exports look at.
-/

namespace RouteTable.Script

/-- The kind and the value of a token. -/
abbrev Symbol : Type :=
  TokenClass × String

namespace Symbol

def name (v : String) : Symbol := (.name, v)

def mark (v : String) : Symbol := (.punctuator, v)

def text (v : String) : Symbol := (.string, v)

/-- A name as a key or as the name of an import, where it may have to be a text. -/
def key (v : String) : Symbol :=
  if isPlainName v then name v else text v

end Symbol

def Token.symbol (token : Token) : Symbol :=
  (token.kind, token.value)

/-- The openers of the brackets that are open after some symbols, if they nest. -/
def nestSymbols (openers : List Char) : List Symbol → Option (List Char)
  | [] => some openers
  | symbol :: rest => (Written.nest openers symbol.1 symbol.2).bind (nestSymbols · rest)

/-- Symbols whose brackets are closed among themselves. -/
def Nested (symbols : List Symbol) : Prop :=
  ∀ openers, nestSymbols openers symbols = some openers

theorem nestSymbols_append {openers middle : List Char} {first : List Symbol}
    (h : nestSymbols openers first = some middle) (second : List Symbol) :
    nestSymbols openers (first ++ second) = nestSymbols middle second := by
  induction first generalizing openers with
  | nil =>
    cases h
    rfl
  | cons symbol rest ih =>
    obtain ⟨next, hnext, hrest⟩ := Option.bind_eq_some_iff.1 h
    simp only [List.cons_append, nestSymbols, hnext, Option.bind_some]
    exact ih hrest

theorem nested_nil : Nested [] := by
  intro openers
  rfl

theorem Nested.append {first second : List Symbol} (hfirst : Nested first)
    (hsecond : Nested second) : Nested (first ++ second) := by
  intro openers
  rw [nestSymbols_append (hfirst openers)]
  exact hsecond openers

theorem Nested.flatMap {α : Type} {parts : List α} {symbols : α → List Symbol}
    (h : ∀ part ∈ parts, Nested (symbols part)) : Nested (parts.flatMap symbols) := by
  induction parts with
  | nil => exact nested_nil
  | cons part parts ih =>
    have hrest : ∀ part ∈ parts, Nested (symbols part) :=
      fun part hpart => h part (List.mem_cons_of_mem _ hpart)
    rw [List.flatMap_cons]
    exact (h part List.mem_cons_self).append (ih hrest)

theorem nested_key (v : String) : Nested [.key v] := by
  intro openers
  unfold Symbol.key
  split <;> rfl

namespace Written

def symbol (written : Written) : Symbol :=
  (written.kind, written.value)

theorem symbols_tokens (cursor : Cursor) (writtens : List Written) :
    (tokens cursor writtens).map Token.symbol = writtens.map symbol := by
  induction writtens generalizing cursor with
  | nil => rfl
  | cons written others ih =>
    rw [tokens, List.map_cons, ih, List.map_cons]
    rfl

theorem nestAll_eq_nestSymbols (openers : List Char) (writtens : List Written) :
    nestAll openers writtens = nestSymbols openers (writtens.map symbol) := by
  induction writtens generalizing openers with
  | nil => rfl
  | cons written others ih => simp only [nestAll, List.map_cons, nestSymbols, symbol, ih]

end Written

end RouteTable.Script
