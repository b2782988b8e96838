import RouteTable.Toml.Value

/-!
Building the tables of a TOML document. A key is set once, a table is named by at most one header,
and a table made for a key with points grows only by such keys.
-/

namespace RouteTable.Toml

/-- Changes what a key has, or gives it something if it has nothing. -/
def change (key : String) (f : Option Value → Option Value) : Entries → Option Entries
  | [] => (f none).map fun value => [(key, value)]
  | (k, value) :: rest =>
    if k = key then (f (some value)).map fun value => (k, value) :: rest
    else (change key f rest).map ((k, value) :: ·)

def changeLast {α : Type} (f : α → Option α) : List α → Option (List α)
  | [] => none
  | [x] => (f x).map ([·])
  | x :: rest => (changeLast f rest).map (x :: ·)

/-- Changes the table that a header's path leads to. Tables on the way are made if there are
none. -/
def within (f : Entries → Option Entries) : (path : List String) → Entries → Option Entries
  | [], entries => f entries
  | key :: path, entries =>
    entries |> change key fun
      | none => (within f path []).map (.table .implied)
      | some (.table making inner) =>
        if making = .inline then none else (within f path inner).map (.table making)
      | some (.tables elements) => (changeLast (within f path) elements).map .tables
      | some _ => none

/-- Sets a key, at the end of a path of keys with points between them. -/
def set (key : String) (value : Value) : (path : List String) → Entries → Option Entries
  | [], entries =>
    entries |> change key fun
      | none => some value
      | some _ => none
  | first :: path, entries =>
    entries |> change first fun
      | none => (set key value path []).map (.table .dotted)
      | some (.table .dotted inner) => (set key value path inner).map (.table .dotted)
      | some (.table .implied inner) =>
        if path.isEmpty then none else (set key value path inner).map (.table .implied)
      | some _ => none

/-- Names a table by a header. -/
def declare (key : String) : (path : List String) → Entries → Option Entries :=
  within <| change key fun
    | none => some (.table .declared [])
    | some (.table .implied inner) => some (.table .declared inner)
    | some _ => none

/-- Adds an element to a list of tables. -/
def append (key : String) : (path : List String) → Entries → Option Entries :=
  within <| change key fun
    | none => some (.tables [[]])
    | some (.tables elements) => some (.tables (elements ++ [[]]))
    | some _ => none

end RouteTable.Toml
