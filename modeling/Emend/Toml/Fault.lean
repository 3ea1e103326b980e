import Emend.Toml.Place

/-! # Faults

A text that is no document has a first place at which reading it cannot go on. A fault says where
that is and what is wrong there.
-/

namespace Emend.Toml

/-- What keeps a text from being a document. -/
inductive FaultKind where
  /-- The text ends where more has to follow. -/
  | unfinished
  /-- A line goes on behind the last part that it can have. -/
  | overlong
  | controlInComment
  | emptyKey
  /-- A key has no equals sign behind it. -/
  | noEquals
  /-- Letters and digits without quotes make no value. -/
  | noValue
  /-- A part of the document ends without its closing sign. -/
  | unclosed (part sign : String)
  /-- Two members of a list have no comma between them. -/
  | noComma (members : String)
  | unclosedString (kind : String) (quotes : String)
  /-- A character stands in a string that can only be written as an escape. -/
  | controlInString (kind : String)
  | unknownEscape
  | missingDigit
  /-- The number behind an escape is not that of a character. -/
  | noCharacter
  | tooDeep
  /-- A key is given for the second time, or a table is begun for the second time. -/
  | repeatedKey
  /-- A path leads through a value to which no keys can be added. -/
  | closedValue (type : String)
  deriving Repr, DecidableEq

def FaultKind.message : FaultKind → String
  | .unfinished => "unexpected end of the document"
  | .overlong => "unexpected key or value, expected newline, `#`"
  | .controlInComment => "invalid comment, expected printable characters"
  | .emptyKey => "unquoted keys cannot be empty, expected letters, numbers, `-`, `_`"
  | .noEquals => "key with no value, expected `=`"
  | .noValue => "string values must be quoted, expected literal string"
  | .unclosed part sign => "unclosed " ++ part ++ ", expected `" ++ sign ++ "`"
  | .noComma members => "missing comma between " ++ members ++ ", expected `,`"
  | .unclosedString kind quotes => "invalid " ++ kind ++ ", expected `" ++ quotes ++ "`"
  | .controlInString kind => "invalid " ++ kind ++ ", expected printable characters"
  | .unknownEscape =>
      "missing escaped value, expected `b`, `e`, `f`, `n`, `r`, `\\`, `\"`, `x`, `u`, `U`"
  | .missingDigit => "too few unicode value digits, expected unicode hexadecimal value"
  | .noCharacter => "invalid value, expected unicode hexadecimal value"
  | .tooDeep => "cannot recurse further; max recursion depth met"
  | .repeatedKey => "duplicate key"
  | .closedValue type => "cannot extend value of type " ++ type ++ " with a dotted key"

structure Fault where
  span : Span
  kind : FaultKind
  deriving Repr, DecidableEq

def Fault.report (document : String) (fault : Fault) : String :=
  fault.span.report document fault.kind.message

end Emend.Toml
