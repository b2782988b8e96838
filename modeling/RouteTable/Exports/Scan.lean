import RouteTable.Exports.Place
import RouteTable.Reporting

/-!
Scanning for exports: a computation over places that records names as it finds them and may fail.
What was recorded before a failure stays recorded.
-/

namespace RouteTable.Exports

open Script

/-- What stands where something else was expected: a token, or the end of the text. -/
abbrev Found := Option Token

def foundText : Found → String
  | none => "end of input"
  | some token =>
    match token.kind with
    | .name | .punctuator => quoted token.value
    | .privateName => quoted ("#" ++ token.value)
    | .string => "string literal"
    | .number => "number literal"
    | .template => "template literal"
    | .regex => "regular expression"
    | .element => "JSX element"

/-- The kinds of declaration that must have a name to be exported. -/
inductive Declared where
  | functionName
  | className
  | enumName
  | namespaceName
deriving DecidableEq

def Declared.word : Declared → String
  | .functionName => "function"
  | .className => "class"
  | .enumName => "enum"
  | .namespaceName => "namespace"

inductive ExportRule where
  | expectedDeclaration
  | unexpectedAfterExport (found : Found)
  | expectedDecoratorName
  | unnamedDeclaration (declared : Declared)
  | expectedImportAlias
  | expectedFrom (found : Found)
  | expectedModuleSpecifier
  | expectedExportName (found : Found)
  | unterminatedList
  | expectedListSeparator (found : Found)
  | missingBinding
  | expectedBinding (found : Found)
  | unterminatedObjectPattern
  | unexpectedInObjectPattern (found : Found)
  | expectedKeyColon
  | expectedObjectSeparator (found : Found)
  | expectedArraySeparator (found : Found)
deriving DecidableEq

def ExportRule.message : ExportRule → String
  | .expectedDeclaration => "expected a declaration after `export`"
  | .unexpectedAfterExport found => "unexpected " ++ foundText found ++ " after `export`"
  | .expectedDecoratorName => "expected a decorator name after `@`"
  | .unnamedDeclaration declared =>
      "exported " ++ declared.word ++ " declaration requires a name"
  | .expectedImportAlias => "expected `export import Name = ...`"
  | .expectedFrom found => "expected `from` but found " ++ foundText found
  | .expectedModuleSpecifier => "expected a module specifier string after `from`"
  | .expectedExportName found => "expected an export name but found " ++ foundText found
  | .unterminatedList => "unterminated export list"
  | .expectedListSeparator found =>
      "expected `,` or `\x7d` in export list but found " ++ foundText found
  | .missingBinding => "expected a binding name in exported declaration"
  | .expectedBinding found => "expected a binding name but found " ++ foundText found
  | .unterminatedObjectPattern => "unterminated object pattern"
  | .unexpectedInObjectPattern found => "unexpected " ++ foundText found ++ " in object pattern"
  | .expectedKeyColon => "expected `:` in object pattern"
  | .expectedObjectSeparator found =>
      "expected `,` or `\x7d` in object pattern but found " ++ foundText found
  | .expectedArraySeparator found =>
      "expected `,` or `]` in array pattern but found " ++ foundText found

/-- A failure to read an export statement, and the position of the token it was noticed at, unless
that was the end of the text. -/
structure ExportError where
  position : Option Position
  rule : ExportRule
deriving DecidableEq

/-- A scan reports the names that it records, in order and with repetitions. -/
abbrev Scan := Reporting String ExportError

namespace Scan

variable {α : Type}

def record (name : String) : Scan Unit := .report name

def fail (place : Place) (rule : ExportRule) : Scan α :=
  Reporting.fail ⟨place.first?.map Token.position, rule⟩

def failFound (place : Place) (rule : Found → ExportRule) : Scan α :=
  fail place (rule place.first?)

end Scan

end RouteTable.Exports
