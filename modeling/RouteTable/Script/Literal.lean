import RouteTable.Text.Hexadecimal
import RouteTable.Text.Alphabetic

/-!
Writing names and texts in a script: string literals, and names as keys of an object.
-/

namespace RouteTable.Script

open Text

def literalChar (c : Char) : List Char :=
  match c with
  | '"' => ['\\', '"']
  | '\\' => ['\\', '\\']
  | '\x08' => ['\\', 'b']
  | '\x0c' => ['\\', 'f']
  | '\n' => ['\\', 'n']
  | '\r' => ['\\', 'r']
  | '\t' => ['\\', 't']
  | _ =>
    if c.toNat < 0x20 then
      ['\\', 'u', '0', '0', lowerHexadecimalDigit (c.toNat / 16),
        lowerHexadecimalDigit (c.toNat % 16)]
    else [c]

def doubleQuoted (text : String) : String :=
  String.ofList ('"' :: text.toList.flatMap literalChar ++ ['"'])

def startsPlainName (c : Char) : Bool :=
  c == '$' || c == '_' || isAlphabetic c

def continuesPlainName (c : Char) : Bool :=
  c == '$' || c == '_' || c == '\u200c' || c == '\u200d' || isAlphanumeric c

/-- Whether a name can be written without quotes. -/
def isPlainName (name : String) : Bool :=
  match name.toList with
  | [] => false
  | c :: rest => startsPlainName c && rest.all continuesPlainName

/-- A name as the key of an object or the name of an import. -/
def nameOrQuoted (name : String) : String :=
  if isPlainName name then name else doubleQuoted name

end RouteTable.Script
