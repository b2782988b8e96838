import RouteTable.Regex.Replacement
import RouteTable.Route.Pattern

/-!
How the pattern of a route is made from the path of its file.
-/

namespace RouteTable

/-- A step that replaces every match of a regular expression. -/
structure Substitution where
  regex : Regex.Compiled
  replacement : String

namespace Substitution

def compile (pattern replacement : String) : Except Regex.Fault Substitution :=
  (Regex.compile pattern).map (⟨·, replacement⟩)

def apply (rule : Substitution) (path : String) : String :=
  rule.regex.replaceAll rule.replacement path

end Substitution

inductive PatternScheme where
  /-- The router's own reading of brackets, extensions and index files. -/
  | standard
  /-- Rules, one after another. -/
  | rules (steps : List Substitution)
  | custom (transform : String → String)

/-- The pattern for a relative path that starts with `./`. -/
def PatternScheme.apply : PatternScheme → String → String
  | .standard, path => Pattern.ofPath path
  | .rules steps, path => steps.foldl (fun path rule => rule.apply path) path
  | .custom transform, path => transform path

end RouteTable
