import RouteTable.Script.Cursor

/-!
The tokens of a script, and the ways in which a text can fail to have any.
-/

namespace RouteTable.Script

inductive TokenClass where
  | name
  | privateName
  | punctuator
  | number
  | string
  | template
  | regex
  | element
deriving DecidableEq

/-- One token. The value of a name or string is its decoded text, that of a punctuator or number
its spelling; templates, regular expressions and elements are opaque and have none. -/
structure Token where
  kind : TokenClass
  value : String
  position : Position
  /-- A line ends between the token before and this one. -/
  freshLine : Bool
deriving DecidableEq

namespace Token

def isPunctuator (token : Token) (text : String) : Bool :=
  token.kind == .punctuator && token.value == text

def isName (token : Token) (name : String) : Bool :=
  token.kind == .name && token.value == name

def isAnyName (token : Token) : Bool :=
  token.kind == .name

def isOpener (token : Token) : Bool :=
  token.kind == .punctuator && (token.value == "(" || token.value == "[" || token.value == "\x7b")

def isCloser (token : Token) : Bool :=
  token.kind == .punctuator && (token.value == ")" || token.value == "]" || token.value == "\x7d")

/-- Whether the name after this token is that of a property. -/
def isAccess (token : Token) : Bool :=
  token.isPunctuator "." || token.isPunctuator "?."

end Token

inductive LexicalRule where
  | unterminatedComment
  | unclosed (opener : Char)
  | unopened (closer : Char)
  | mismatched (closer opener : Char) (opened : Position)
  | unterminatedExpression
  | unexpectedCharacter (c : Char)
  | unexpectedEnd
  | invalidNameEscape
  | invalidUnicodeEscape
  | invalidHexadecimalEscape
  | unterminatedString
  | unterminatedTemplate
  | unterminatedRegex
  | unterminatedElement
  | unterminatedFragment
  | unterminatedChildren (name : String)
  | unterminatedAttribute
  | expectedAttributeValue
  | expectedSelfClosingEnd
  | expectedClosingTagEnd
  | closingTagMismatch (closing name : String)
  | unexpectedInTag (c : Char)
  /-- A backslash in a tag starts a name that it cannot be part of, so no reading goes on. -/
  | stalledTag
deriving DecidableEq

/-- A text between backticks, as messages show what they found. -/
def quoted (text : String) : String :=
  "`" ++ text ++ "`"

def LexicalRule.message : LexicalRule → String
  | .unterminatedComment => "unterminated block comment"
  | .unclosed opener => "unclosed " ++ quoted opener.toString
  | .unopened closer => "unexpected " ++ quoted closer.toString
  | .mismatched closer opener opened =>
      "mismatched " ++ quoted closer.toString ++ ", expected closer for " ++
        quoted opener.toString ++ " opened at " ++ toString opened.line ++ ":" ++
        toString opened.column
  | .unterminatedExpression => "unterminated embedded expression"
  | .unexpectedCharacter c => "unexpected character " ++ quoted c.toString
  | .unexpectedEnd => "unexpected end of input"
  | .invalidNameEscape => "invalid escape in identifier"
  | .invalidUnicodeEscape => "invalid unicode escape"
  | .invalidHexadecimalEscape => "invalid hexadecimal escape"
  | .unterminatedString => "unterminated string literal"
  | .unterminatedTemplate => "unterminated template literal"
  | .unterminatedRegex => "unterminated regular expression"
  | .unterminatedElement => "unterminated JSX element"
  | .unterminatedFragment => "unterminated JSX fragment"
  | .unterminatedChildren name => "unterminated JSX <" ++ name ++ ">"
  | .unterminatedAttribute => "unterminated JSX attribute"
  | .expectedAttributeValue => "expected JSX attribute value"
  | .expectedSelfClosingEnd => "expected `>` after `/` in JSX tag"
  | .expectedClosingTagEnd => "expected `>` to end JSX closing tag"
  | .closingTagMismatch closing name =>
      "closing tag </" ++ closing ++ "> does not match <" ++ name ++ ">"
  | .unexpectedInTag c => "unexpected " ++ quoted c.toString ++ " in JSX tag"
  | .stalledTag => "no attribute name at `\\` in JSX tag"

structure LexicalError where
  position : Position
  rule : LexicalRule
deriving DecidableEq

end RouteTable.Script
