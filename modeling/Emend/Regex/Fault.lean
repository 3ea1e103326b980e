import Emend.Regex.Syntax
import Emend.Text.Line
import Emend.Text.Occurrence

/-! # Faults of patterns

A fault says what is wrong with a pattern and where. Its report shows the pattern with
carets under the place.
-/

namespace Emend.Regex

inductive FaultKind where
  | classEscapeInvalid | classRangeInvalid | classRangeLiteral | classUnclosed
  | decimalEmpty | decimalInvalid
  | escapeHexEmpty | escapeHexInvalid | escapeHexInvalidDigit | escapeUnexpectedEnd
  | escapeUnrecognized
  | flagDanglingNegation | flagDuplicate | flagRepeatedNegation | flagUnexpectedEnd
  | flagUnrecognized
  | groupNameDuplicate | groupNameEmpty | groupNameInvalid | groupNameUnexpectedEnd
  | groupUnclosed | groupUnopened
  | nestLimitExceeded (limit : Nat)
  | repetitionCountInvalid | repetitionCountEmpty | repetitionCountUnclosed
  | repetitionMissing
  | wordBoundaryUnclosed | wordBoundaryUnrecognized | wordBoundaryUnexpectedEnd
  | propertyEscapeInvalid | backreference | lookAround
  | unicodeNotAllowed | invalidUtf8 | propertyNotFound | propertyValueNotFound
  deriving Repr, DecidableEq

def FaultKind.message : FaultKind → String
  | .classEscapeInvalid => "invalid escape sequence found in character class"
  | .classRangeInvalid => "invalid character class range, the start must be <= the end"
  | .classRangeLiteral => "invalid range boundary, must be a literal"
  | .classUnclosed => "unclosed character class"
  | .decimalEmpty => "decimal literal empty"
  | .decimalInvalid => "decimal literal invalid"
  | .escapeHexEmpty => "hexadecimal literal empty"
  | .escapeHexInvalid => "hexadecimal literal is not a Unicode scalar value"
  | .escapeHexInvalidDigit => "invalid hexadecimal digit"
  | .escapeUnexpectedEnd => "incomplete escape sequence, reached end of pattern prematurely"
  | .escapeUnrecognized => "unrecognized escape sequence"
  | .flagDanglingNegation => "dangling flag negation operator"
  | .flagDuplicate => "duplicate flag"
  | .flagRepeatedNegation => "flag negation operator repeated"
  | .flagUnexpectedEnd => "expected flag but got end of regex"
  | .flagUnrecognized => "unrecognized flag"
  | .groupNameDuplicate => "duplicate capture group name"
  | .groupNameEmpty => "empty capture group name"
  | .groupNameInvalid => "invalid capture group character"
  | .groupNameUnexpectedEnd => "unclosed capture group name"
  | .groupUnclosed => "unclosed group"
  | .groupUnopened => "unopened group"
  | .nestLimitExceeded limit =>
      "exceed the maximum number of nested parentheses/brackets (" ++ toString limit ++ ")"
  | .repetitionCountInvalid =>
      "invalid repetition count range, the start must be <= the end"
  | .repetitionCountEmpty => "repetition quantifier expects a valid decimal"
  | .repetitionCountUnclosed => "unclosed counted repetition"
  | .repetitionMissing => "repetition operator missing expression"
  | .wordBoundaryUnclosed =>
      "special word boundary assertion is either unclosed or contains an invalid character"
  | .wordBoundaryUnrecognized =>
      "unrecognized special word boundary assertion, valid choices are: start, end, "
        ++ "start-half or end-half"
  | .wordBoundaryUnexpectedEnd =>
      "found either the beginning of a special word boundary or a bounded repetition on a "
        ++ "\\b with an opening brace, but no closing brace"
  | .propertyEscapeInvalid => "invalid Unicode character class"
  | .backreference => "backreferences are not supported"
  | .lookAround => "look-around, including look-ahead and look-behind, is not supported"
  | .unicodeNotAllowed => "Unicode not allowed here"
  | .invalidUtf8 => "pattern can match invalid UTF-8"
  | .propertyNotFound => "Unicode property not found"
  | .propertyValueNotFound => "Unicode property value not found"

/-- A fault at a place. The second span shows the first of two parts that clash. -/
structure Fault where
  kind : FaultKind
  span : Span
  other : Option Span
  deriving Repr, DecidableEq

namespace Fault

/-- The carets under one line for the spans on it, in order: `column` columns of the
line have been filled. -/
def carets (column : Nat) : List Span → List Char
  | [] => []
  | span :: rest =>
      let blanks := span.start.column - 1 - column
      let width := max 1 (span.stop.column - span.start.column)
      List.replicate blanks ' ' ++ List.replicate width '^'
        ++ carets (column + blanks + width) rest

/-- The order of spans: by start, then by end. -/
def before (a b : Span) : Bool :=
  a.start.offset < b.start.offset
    || (a.start.offset == b.start.offset && a.stop.offset ≤ b.stop.offset)

/-- The lines of a pattern, each with the carets of the spans on it. Without a width the
lines are indented, else they carry their numbers in that width. -/
def notate (width : Nat) (spans : List Span) : (line : Nat) → List (List Char) → List Char
  | _, [] => []
  | line, text :: rest =>
      let label := if width = 0 then "    ".toList else Text.alignRight width (toString line).toList ++ [':', ' ']
      let here := spans.filter fun span => span.start.line = line
      let notes := if here.isEmpty then []
        else List.replicate (if width = 0 then 4 else width + 2) ' ' ++ carets 0 here ++ ['\n']
      label ++ text ++ '\n' :: notes ++ notate width spans (line + 1) rest

/-- The full report of a fault in a pattern. A pattern with line feeds is shown between
rules, and a span over several lines is given in words behind it. -/
def report (pattern : String) (fault : Fault) : String :=
  let chars := pattern.toList
  let lines := Text.lines chars
  let count := lines.length + (if chars.getLast? = some '\n' then 1 else 0)
  let width := if count ≤ 1 then 0 else (toString count).length
  let spans := (fault.span :: fault.other.toList).mergeSort before
  let (single, multiple) := spans.partition fun span => span.start.line = span.stop.line
  let shown := notate width single 1 lines
  let notes := multiple.flatMap fun span =>
    ("on line " ++ toString span.start.line ++ " (column " ++ toString span.start.column
      ++ ") through line " ++ toString span.stop.line ++ " (column "
      ++ toString (span.stop.column - 1) ++ ")\n").toList
  let rule := List.replicate 79 '~' ++ ['\n']
  let body := if chars.contains '\n' then rule ++ shown ++ rule ++ notes else shown
  "regex parse error:\n" ++ String.ofList body ++ "error: " ++ fault.kind.message

end Fault

end Emend.Regex
