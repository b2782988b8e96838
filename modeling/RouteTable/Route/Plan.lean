import RouteTable.Exports.Bindings
import RouteTable.Log
import RouteTable.Route.Module
import RouteTable.Route.Choice

/-!
Binding plans: which exports of a route come with the table, under which names, and which are loaded
when they are asked for. A plan keeps the wanted names that the module exports, in the order in
which they are wanted.
-/

namespace RouteTable

/-- The part of a route that comes with the table. -/
inductive SyncPart where
  /-- The whole module, under one name. -/
  | whole (name : String)
  /-- Exports, each with the name it gets. -/
  | named (pairs : List (String × String))
deriving DecidableEq

namespace SyncPart

def isEmpty : SyncPart → Bool
  | .whole _ => false
  | .named pairs => pairs.isEmpty

/-- The names that the plan brings into the scope of the table's module. -/
def aliases : SyncPart → List String
  | .whole name => [name]
  | .named pairs => pairs.map Prod.snd

end SyncPart

structure RoutePlan where
  sync : SyncPart
  deferred : List String
deriving DecidableEq

def wholeAlias (index : Nat) : String :=
  "__" ++ toString index

/-- The name of an export, by its place among those that are kept. -/
def exportAlias (index position : Nat) : String :=
  "__" ++ toString index ++ "_" ++ toString position

namespace Bindings

/-- The wanted names that are in the set and not among those `kept`, each once. -/
def selectFrom (bindings : Bindings) (kept : List String) : List String → List String
  | [] => []
  | name :: rest =>
    if bindings.contains name && !kept.contains name then
      name :: bindings.selectFrom (name :: kept) rest
    else bindings.selectFrom kept rest

/-- The wanted names that are in the set, each once. -/
def select (bindings : Bindings) (wanted : List String) : List String :=
  bindings.selectFrom [] wanted

end Bindings

namespace RoutePlan

def namedFrom (index : Nat) : (position : Nat) → List String → List (String × String)
  | _, [] => []
  | position, name :: rest =>
    (name, exportAlias index position) :: namedFrom index (position + 1) rest

def syncPart (index : Nat) (bindings : Bindings) : SyncChoice → SyncPart
  | .all => .whole (wholeAlias index)
  | .names wanted => .named (namedFrom index 0 (bindings.select wanted))

def make (index : Nat) (bindings : Bindings) (sync : SyncChoice) (deferred : List String) :
    RoutePlan :=
  ⟨syncPart index bindings sync, bindings.select deferred⟩

/-- A report for each wanted name that the module does not export. -/
def droppedFrom (route : String) (bindings : Bindings) (channel : Channel) (wanted : List String) :
    Log :=
  (wanted.filter (!bindings.contains ·)).map (.dropped route · channel)

def events (route : String) (bindings : Bindings) (sync : SyncChoice) (deferred : List String) :
    Log :=
  let wanted := match sync with
    | .all => []
    | .names wanted => wanted
  droppedFrom route bindings .sync wanted ++ droppedFrom route bindings .async deferred

end RoutePlan

end RouteTable
