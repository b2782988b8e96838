import RouteTable.Exports.Statement
import RouteTable.Script.Tokens
import RouteTable.Log

/-!
The exports of a module: every name recorded by an export statement outside all brackets. The word
`export` after a point is the name of a property and starts no statement.
-/

namespace RouteTable.Exports

open Script

/-- The number of open brackets after a token. -/
def depthAfter (depth : Nat) (token : Token) : Nat :=
  if token.isOpener then depth + 1
  else if token.isCloser then depth - 1
  else depth

/-- Scans the statements from a place on, inside `depth` open brackets. -/
def scanFrom (depth : Nat) (place : Place) : Scan Unit :=
  match hf : place.first? with
  | none => pure ()
  | some token =>
    have _hnext := Place.remaining_next_lt hf
    let inside := depthAfter depth token
    if inside == 0 && token.isName "export" && !place.previous.any Token.isAccess then do
      let ⟨after, _hafter⟩ ← readStatement place.next
      scanFrom inside after
    else
      scanFrom inside place.next
termination_by place.remaining
decreasing_by
  · exact Nat.lt_trans _hafter _hnext
  · exact _hnext

def scan (tokens : List Token) : Scan Unit :=
  scanFrom 0 (.start tokens)

inductive InventoryRule where
  | lexical (rule : LexicalRule)
  | statement (rule : ExportRule)
  /-- An inventory other than the scanner refuses the module, with a reason of its own. -/
  | refused (reason : String)
deriving DecidableEq

def InventoryRule.message : InventoryRule → String
  | .lexical rule => rule.message
  | .statement rule => rule.message
  | .refused reason => reason

structure InventoryError where
  position : Position
  rule : InventoryRule
deriving DecidableEq

/-- Line, column and rule, after the path of the module. -/
def InventoryError.message (path : String) (e : InventoryError) : String :=
  path ++ ":" ++ toString e.position.line ++ ":" ++ toString e.position.column ++ ": " ++
    e.rule.message

/-- What scanning a module gives: the names it recorded, in order and with repetitions, and the
failure that stopped it, if one did. -/
structure Inventory where
  recorded : List String
  failure : Option InventoryError

namespace Inventory

def exports (inventory : Inventory) : Except InventoryError Bindings :=
  match inventory.failure with
  | some e => .error e
  | none => .ok (.ofList inventory.recorded)

/-- What recording names on top of a set reports. -/
def eventsFrom (path : String) (bindings : Bindings) : List String → Log
  | [] => []
  | name :: rest =>
    let again := if bindings.contains name then [Event.exportedAgain path name] else []
    .exported path name :: again ++ eventsFrom path (bindings.insert name) rest

def events (path : String) (inventory : Inventory) : Log :=
  eventsFrom path .empty inventory.recorded

end Inventory

/-- The inventory of a list of tokens. A failure at the end of the text is shown at the last token,
or at the start if there is none. -/
def collect (tokens : List Token) : Inventory :=
  match scan tokens with
  | ⟨recorded, .ok ()⟩ => ⟨recorded, none⟩
  | ⟨recorded, .error e⟩ =>
    let last := (tokens.getLast?.map Token.position).getD .start
    ⟨recorded, some ⟨e.position.getD last, .statement e.rule⟩⟩

def collectSource (source : String) : Inventory :=
  match readTokens source with
  | .ok tokens => collect tokens
  | .error e => ⟨[], some ⟨e.position, .lexical e.rule⟩⟩

end RouteTable.Exports
