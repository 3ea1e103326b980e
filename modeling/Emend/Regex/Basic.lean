import Emend.Regex.Footprint.Expr
import Emend.Regex.Template

/-! # Regular expressions as rules use them

A pattern with its flags is compiled once, or refused. A compiled expression cuts a text
into matches and the characters between them, and replaces the matches by a template.
-/

namespace Emend

/-- Flags that hold for a whole pattern. -/
structure Regex.Flags where
  /-- `^` and `$` match at line boundaries. -/
  multiLine : Bool
  /-- Letters match without regard to case. -/
  caseInsensitive : Bool
  /-- The dot matches line feeds too. -/
  dotMatchesNewLine : Bool
  deriving Repr, DecidableEq, Inhabited

def Regex.Flags.none : Regex.Flags := ⟨false, false, false⟩

/-- Why a pattern cannot be used. -/
inductive Regex.Error where
  /-- It is no regular expression, or one that is not supported. -/
  | malformed (fault : Regex.Fault)
  /-- It is too large once compiled. -/
  | tooLarge (limit : Nat)
  deriving Repr, DecidableEq

def Regex.Error.message (pattern : String) : Regex.Error → String
  | .malformed fault => fault.report pattern
  | .tooLarge limit => "Compiled regex exceeds size limit of " ++ toString limit ++ " bytes."

/-- A compiled regular expression with the names of its groups. -/
structure Regex where
  program : Regex.Program
  names : List (String × Nat)
  deriving Repr

namespace Regex

/-- The bytes of an automaton beyond which a pattern is refused. -/
def sizeLimit : Nat := 10485760

def Flags.settings (flags : Flags) : Settings :=
  { caseInsensitive := flags.caseInsensitive
    multiLine := flags.multiLine
    dotMatchesNewLine := flags.dotMatchesNewLine
    swapGreed := false
    unicode := true
    crlf := false }

def compile (pattern : String) (flags : Flags) : Except Error Regex := do
  let ast ← (Ast.parse pattern.toList).mapError .malformed
  let (expr, _) ← (ast.meaning flags.settings).mapError .malformed
  if expr.fits sizeLimit then return ⟨.ofExpr expr, ast.groupNames⟩
  else .error (.tooLarge sizeLimit)

/-- A text cut into its matches and the characters between them. -/
def split (r : Regex) (text : List Char) : List Segment :=
  r.program.segments none false 0 text

/-- The number of successive matches of a text. They are only counted, so the search for them
records nothing. -/
def count (r : Regex) (text : List Char) : Nat :=
  (r.program.bare.segments none false 0 text).countP Segment.isMatch

def expand (r : Regex) (template : List TemplatePart) (m : Match) : List Char :=
  template.flatMap (TemplatePart.expand r.names m)

/-- Writes every match of a text under a template and keeps all other characters. -/
def replaceAll (r : Regex) (template : List TemplatePart) (text : List Char) : List Char :=
  (r.split text).flatMap fun
    | .kept c => [c]
    | .found m => r.expand template m

end Regex

end Emend
