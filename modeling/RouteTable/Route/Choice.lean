import RouteTable.Text.Blank

/-!
Which exports of a route's module are wanted.
-/

namespace RouteTable

open Text

def trimBlank (text : List Char) : List Char :=
  ((text.dropWhile isBlank).reverse.dropWhile isBlank).reverse

/-- The names of a list with commas between them. Names that are blank do not count. -/
def nameList (list : String) : List String :=
  (((list.toList.splitOnP (· == ',')).map trimBlank).filter (!·.isEmpty)).map String.ofList

/-- The exports that are loaded together with the route table. -/
inductive SyncChoice where
  /-- The whole module. -/
  | all
  /-- The exports with these names, in their order. -/
  | names (wanted : List String)
deriving DecidableEq

namespace SyncChoice

/-- Whether a text is a word for the whole module. -/
def isKeyword (text : String) : Bool :=
  text == "all" || text == "*"

/-- What a word for everything or a list of names stands for. -/
def parse (text : String) : SyncChoice :=
  if isKeyword (String.ofList (trimBlank text.toList)) then .all else .names (nameList text)

end SyncChoice

end RouteTable
