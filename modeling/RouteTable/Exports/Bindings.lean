/-!
Sets of exported names that remember the order of insertion. Adding a name a second time changes
nothing.
-/

namespace RouteTable

/-- The names that a module exports, each once, in the order of their first appearance. -/
structure Bindings where
  names : List String
  nodup : names.Nodup

namespace Bindings

/-- The name under which a module exports its main value. -/
def defaultName : String := "default"

def empty : Bindings := ⟨[], List.nodup_nil⟩

instance : Inhabited Bindings := ⟨empty⟩

def contains (bindings : Bindings) (name : String) : Bool :=
  bindings.names.contains name

def containsDefault (bindings : Bindings) : Bool :=
  bindings.contains defaultName

def size (bindings : Bindings) : Nat :=
  bindings.names.length

def isEmpty (bindings : Bindings) : Bool :=
  bindings.names.isEmpty

/-- Adds a name at the end, unless the set has it. -/
def insert (bindings : Bindings) (name : String) : Bindings :=
  if h : bindings.contains name then bindings
  else ⟨bindings.names ++ [name], by
    have hmem : name ∉ bindings.names := by simpa [contains] using h
    rw [List.nodup_append]
    exact ⟨bindings.nodup, by simp, by
      intro x hx y hy
      rw [List.mem_singleton] at hy
      subst hy
      exact fun heq => hmem (heq ▸ hx)⟩⟩

def insertAll (bindings : Bindings) (names : List String) : Bindings :=
  names.foldl insert bindings

def ofList (names : List String) : Bindings :=
  empty.insertAll names

@[simp] theorem names_empty : empty.names = [] := rfl

theorem names_insert (bindings : Bindings) (name : String) :
    (bindings.insert name).names =
      if name ∈ bindings.names then bindings.names else bindings.names ++ [name] := by
  unfold insert
  by_cases h : name ∈ bindings.names <;> simp [contains, h]

@[simp] theorem mem_insert {bindings : Bindings} {name x : String} :
    x ∈ (bindings.insert name).names ↔ x ∈ bindings.names ∨ x = name := by
  rw [names_insert]
  split
  · rename_i h
    exact ⟨Or.inl, fun hx => hx.elim id fun heq => heq ▸ h⟩
  · simp

@[simp] theorem mem_insertAll {bindings : Bindings} {names : List String} {x : String} :
    x ∈ (bindings.insertAll names).names ↔ x ∈ bindings.names ∨ x ∈ names := by
  induction names generalizing bindings with
  | nil => simp [insertAll]
  | cons name rest ih =>
    have h : bindings.insertAll (name :: rest) = (bindings.insert name).insertAll rest := rfl
    rw [h, ih, mem_insert, List.mem_cons, or_assoc]

@[simp] theorem mem_ofList {names : List String} {x : String} :
    x ∈ (ofList names).names ↔ x ∈ names := by
  simp [ofList]

end Bindings

end RouteTable
