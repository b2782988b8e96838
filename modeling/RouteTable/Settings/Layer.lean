import RouteTable.Settings.Config
import RouteTable.Text.Quoted
import RouteTable.Toml.Document

/-!
Layers of settings. A layer is a TOML document that sets some of the settings, and lies over the
settings that there were before.
-/

namespace RouteTable

open Text

/-- Settings of which each may be missing. -/
structure Layer where
  base : Option String
  patterns : Option (List String)
  ignored : Option (List String)
  /-- Patterns of regular expressions, with what replaces them. -/
  rules : Option (List (String × String))
  sync : Option SyncChoice
  deferred : Option (List String)
  hidden : Option Bool
  workers : Option WorkerCount

/-- The settings, by the names that messages give them. -/
inductive Setting where
  | base
  | pattern
  | ignore
  | toPath
  | importSync
  | importAsync
  | dot
  | workers
deriving DecidableEq

def Setting.word : Setting → String
  | .base => "base"
  | .pattern => "pattern"
  | .ignore => "ignore"
  | .toPath => "to_path"
  | .importSync => "import_sync"
  | .importAsync => "import_async"
  | .dot => "dot"
  | .workers => "workers"

/-- The keys that a layer can have, and the settings they set. -/
def Setting.keys : List (String × Setting) :=
  [("base", .base), ("pattern", .pattern), ("ignore", .ignore), ("toPath", .toPath),
   ("to_path", .toPath), ("importSync", .importSync), ("import_sync", .importSync),
   ("importAsync", .importAsync), ("import_async", .importAsync), ("dot", .dot),
   ("workers", .workers)]

inductive LayerFault where
  /-- The text is no TOML document. -/
  | illFormed
  | unknownKey (key : String)
  | unknownRuleKey (key : String)
  | repeatedSetting (setting : Setting)
  | missingRuleKey (key : String)
  | wrongKind (found expected : String)
  | notPositive (n : Int)
  /-- The items of a rule that is written as a list are not enough. -/
  | shortRule (count : Nat)
  | notTexts
  | notChoice
  | unknownChoice (word : String)
  /-- The pattern of a rule is no regular expression. -/
  | invalidPattern (pattern : String) (fault : Regex.Fault)
deriving DecidableEq

namespace LayerFault

def message : LayerFault → String
  | .illFormed => "not a TOML document"
  | .unknownKey key =>
      "unknown field " ++ ticked key ++ ", expected one of " ++
        ", ".intercalate (Setting.keys.map (ticked ·.1))
  | .unknownRuleKey key =>
      "unknown field " ++ ticked key ++ ", expected `pattern` or `replace`"
  | .repeatedSetting setting => "duplicate field " ++ ticked setting.word
  | .missingRuleKey key => "missing field " ++ ticked key
  | .wrongKind found expected => "invalid type: " ++ found ++ ", expected " ++ expected
  | .notPositive n =>
      "invalid value: integer " ++ ticked (toString n) ++ ", expected a nonzero usize"
  | .shortRule count =>
      "invalid length " ++ toString count ++
        ", expected struct RawRewriteRule with 2 elements"
  | .notTexts => "data did not match any variant of untagged enum OneOrMany"
  | .notChoice => "data did not match any variant of untagged enum RawSyncSelector"
  | .unknownChoice word =>
      "expected \"all\" or a list of export names, found \"" ++ word ++ "\""
  | .invalidPattern pattern fault =>
      "invalid to_path pattern " ++ ticked pattern ++ ": " ++ fault.message
where
  ticked (text : String) : String := "`" ++ text ++ "`"

end LayerFault

namespace Layer

open Toml (Value Entries)

def empty : Layer := ⟨none, none, none, none, none, none, none, none⟩

def kindOf : Value → String
  | .string text => "string " ++ quotedText text
  | .integer n => "integer `" ++ toString n ++ "`"
  | .real x => "floating point `" ++ Shortest.text x ++ "`"
  | .boolean b => "boolean `" ++ (if b then "true" else "false") ++ "`"
  | .moment => "map"
  | .array _ => "sequence"
  | .table .. => "map"
  | .tables _ => "sequence"

/-- The items of a list of any kind. -/
def items? : Value → Option (List Value)
  | .array items => some items
  | .tables elements => some (elements.map (.table .declared))
  | _ => none

def text : Value → Except LayerFault String
  | .string text => .ok text
  | value => .error (.wrongKind (kindOf value) "a string")

def list {α : Type} (item : Value → Except LayerFault α) (value : Value) :
    Except LayerFault (List α) :=
  match items? value with
  | some items => items.mapM item
  | none => .error (.wrongKind (kindOf value) "a sequence")

def flag : Value → Except LayerFault Bool
  | .boolean b => .ok b
  | value => .error (.wrongKind (kindOf value) "a boolean")

def count : Value → Except LayerFault WorkerCount
  | .integer n =>
    if h : 0 < n.toNat then
      if n.toNat < UInt64.size then .ok ⟨n.toNat, h⟩
      else .error (.wrongKind (kindOf (.integer n)) "a nonzero usize")
    else .error (.notPositive n)
  | value => .error (.wrongKind (kindOf value) "a nonzero usize")

def texts? (value : Value) : Option (List String) := do
  let items ← items? value
  items.mapM fun
    | .string text => some text
    | _ => none

/-- A text, or a list of texts. -/
def globs : Value → Except LayerFault (List String)
  | .string text => .ok [text]
  | value =>
    match texts? value with
    | some texts => .ok texts
    | none => .error .notTexts

/-- A word for the whole module, or a list of names. -/
def choice : Value → Except LayerFault SyncChoice
  | .string word => if SyncChoice.isKeyword word then .ok .all else .error (.unknownChoice word)
  | value =>
    match texts? value with
    | some names => .ok (.names names)
    | none => .error .notChoice

def sorted (entries : Entries) : Entries :=
  entries.mergeSort fun a b => a.1 ≤ b.1

/-- The key that stands for a date or a time where a table is expected. -/
def momentKey : String := "$__toml_private_datetime"

/-- The pattern and the replacement of a rule, from the entries of a table. -/
def ruleOfEntries (pattern replacement : Option String) :
    Entries → Except LayerFault (String × String)
  | [] =>
    match pattern, replacement with
    | some pattern, some replacement => .ok (pattern, replacement)
    | none, _ => .error (.missingRuleKey "pattern")
    | some _, none => .error (.missingRuleKey "replace")
  | (key, value) :: rest =>
    if key = "pattern" then do ruleOfEntries (some (← text value)) replacement rest
    else if key = "replace" then do ruleOfEntries pattern (some (← text value)) rest
    else .error (.unknownRuleKey key)

/-- A rule: a table, or a list of its pattern and its replacement. -/
def rule (value : Value) : Except LayerFault (String × String) :=
  match value with
  | .table _ entries => ruleOfEntries none none (sorted entries)
  | .moment => .error (.unknownRuleKey momentKey)
  | _ =>
    match items? value with
    | some (pattern :: replacement :: _) => do
      let pattern ← text pattern
      let replacement ← text replacement
      pure (pattern, replacement)
    | some [pattern] => do
      let _ ← text pattern
      .error (.shortRule 1)
    | some [] => .error (.shortRule 0)
    | none => .error (.wrongKind (kindOf value) "struct RawRewriteRule")

def setting (layer : Layer) (value : Value) : Setting → Except LayerFault Layer
  | .base => do pure { layer with base := some (← text value) }
  | .pattern => do pure { layer with patterns := some (← globs value) }
  | .ignore => do pure { layer with ignored := some (← globs value) }
  | .toPath => do pure { layer with rules := some (← list rule value) }
  | .importSync => do pure { layer with sync := some (← choice value) }
  | .importAsync => do pure { layer with deferred := some (← list text value) }
  | .dot => do pure { layer with hidden := some (← flag value) }
  | .workers => do pure { layer with workers := some (← count value) }

/-- The layer of entries, on top of what those before them have set. -/
def ofEntries (layer : Layer) (before : List Setting) : Entries → Except LayerFault Layer
  | [] => .ok layer
  | (key, value) :: rest =>
    match Setting.keys.lookup key with
    | none => .error (.unknownKey key)
    | some target =>
      if target ∈ before then .error (.repeatedSetting target)
      else do
        let layer ← layer.setting value target
        layer.ofEntries (target :: before) rest

/-- The layer that a document spells. Its keys are looked at in their order as texts. -/
def parse (document : String) : Except LayerFault Layer :=
  match Toml.parse? document with
  | some entries => ofEntries empty [] (sorted entries)
  | none => .error .illFormed

/-- The rules of a layer, up to the first whose pattern is no regular expression. -/
def compileRules (rules : List (String × String)) : Except LayerFault (List Substitution) :=
  rules.mapM fun (pattern, replacement) =>
    (Substitution.compile pattern replacement).mapError (.invalidPattern pattern ·)

/-- What a layer sets before its rules are compiled. -/
def applyFirst (layer : Layer) (config : Config) : Config :=
  { config with
    base := layer.base.getD config.base
    patterns := layer.patterns.getD config.patterns
    ignored := layer.ignored.getD config.ignored }

/-- What a layer sets once its rules are compiled. -/
def applyRest (layer : Layer) (rules : Option (List Substitution)) (config : Config) : Config :=
  { config with
    scheme := (rules.map PatternScheme.rules).getD config.scheme
    sync := layer.sync.getD config.sync
    deferred := layer.deferred.getD config.deferred
    hidden := layer.hidden.getD config.hidden
    workers := layer.workers.or config.workers }

/-- Lays a layer over settings. A pattern that is no regular expression keeps the layer from setting
its rules and what is set after them. -/
def apply (layer : Layer) (config : Config) : Config × Option LayerFault :=
  let first := layer.applyFirst config
  match layer.rules.mapM compileRules with
  | .ok rules => (layer.applyRest rules first, none)
  | .error fault => (first, some fault)

end Layer

end RouteTable
