import RouteTable.Text.Shortest

/-!
Values of a TOML document. Tables remember how they were made, because that decides what may be
added to them later in the document.
-/

namespace RouteTable.Toml

inductive Making where
  /-- Written within braces. -/
  | inline
  /-- Made for a key with points in it. -/
  | dotted
  /-- Made for a header that names a table inside of it. -/
  | implied
  /-- Named by a header of its own. -/
  | declared
deriving DecidableEq

inductive Value where
  | string (text : String)
  | integer (n : Int)
  | real (x : Float)
  | boolean (b : Bool)
  /-- A date, a time, or both. -/
  | moment
  | array (items : List Value)
  | table (making : Making) (entries : List (String × Value))
  /-- A list of tables, each with a header of its own. -/
  | tables (elements : List (List (String × Value)))
deriving Inhabited

abbrev Entries := List (String × Value)

mutual

/-- Whether the integers of a value all have a place among the signed integers of 64 bits. -/
def Value.isRepresentable : Value → Bool
  | .integer n => -0x8000000000000000 ≤ n && n < 0x8000000000000000
  | .array items => areRepresentable items
  | .table _ entries => entriesAreRepresentable entries
  | .tables elements => tablesAreRepresentable elements
  | _ => true

def areRepresentable : List Value → Bool
  | [] => true
  | value :: rest => value.isRepresentable && areRepresentable rest

def entriesAreRepresentable : Entries → Bool
  | [] => true
  | (_, value) :: rest => value.isRepresentable && entriesAreRepresentable rest

def tablesAreRepresentable : List Entries → Bool
  | [] => true
  | entries :: rest => entriesAreRepresentable entries && tablesAreRepresentable rest

end

end RouteTable.Toml
