import Emend.Regex.Basic
import Emend.Text.Occurrence
import Emend.Text.Quoted

/-! # Rules

A rule changes a whole buffer. It looks for an exact text, or for the matches of a
regular expression, and says how often it replaced what it was looking for. A rule whose
target is absent leaves the buffer as it is, which is no error.
-/

namespace Emend

/-- Which occurrences a literal rule replaces. -/
inductive ReplaceMode where
  /-- Only the leftmost occurrence. -/
  | first
  /-- Every occurrence, from left to right. -/
  | all
  deriving Repr, DecidableEq

/-- A transformation of a buffer. -/
inductive Rule where
  /-- Replaces an exact text. -/
  | literal (old new : String) (mode : ReplaceMode)
  /-- Replaces the leftmost occurrence of an exact text, usually of several lines. -/
  | block (old new : String)
  /-- Replaces every match of a regular expression by a template. -/
  | regex (pattern template : String) (flags : Regex.Flags)
  deriving Repr, DecidableEq

/-- The kind of a rule, as reports name it. -/
inductive RuleKind where
  | literal | block | regex
  deriving Repr, DecidableEq

def RuleKind.name : RuleKind → String
  | .literal => "literal"
  | .block => "block"
  | .regex => "regex"

/-- What a rule did to a buffer. -/
inductive Outcome where
  /-- It made replacements. -/
  | applied (replacements : Nat)
  /-- Its target was absent and the buffer is unchanged. -/
  | noMatch
  deriving Repr, DecidableEq

namespace Outcome

def isApplied : Outcome → Bool
  | .applied _ => true
  | .noMatch => false

def message : Outcome → String
  | .applied 1 => "applied (1 replacement)"
  | .applied n => "applied (" ++ toString n ++ " replacements)"
  | .noMatch => "no match"

end Outcome

/-- The buffer after a rule, and what the rule did. -/
structure Application where
  buffer : String
  outcome : Outcome
  deriving Repr, DecidableEq

/-- The application of a rule that found nothing. -/
def Application.unchanged (buffer : String) : Application := ⟨buffer, .noMatch⟩

/-- Why a rule cannot be applied to any buffer. -/
inductive RuleError where
  /-- Its pattern cannot be compiled. -/
  | invalidPattern (pattern : String) (reason : Regex.Error)
  /-- It looks for the empty text. -/
  | emptyTarget (kind : RuleKind)
  deriving Repr, DecidableEq

def RuleError.message : RuleError → String
  | .invalidPattern pattern reason =>
      "invalid pattern " ++ Text.quote pattern ++ ": " ++ reason.message pattern
  | .emptyTarget kind => kind.name ++ " rule has empty target text"

namespace Rule

def kind : Rule → RuleKind
  | .literal .. => .literal
  | .block .. => .block
  | .regex .. => .regex

/-- The exact text that a rule looks for, unless it has a pattern. -/
def expectedText? : Rule → Option String
  | .literal old _ _ => some old
  | .block old _ => some old
  | .regex .. => none

def compilePattern (pattern : String) (flags : Regex.Flags) : Except RuleError Regex :=
  (Regex.compile pattern flags).mapError (.invalidPattern pattern)

/-- Checks that a rule can be applied, without a buffer. -/
def validate (rule : Rule) : Except RuleError Unit :=
  match rule with
  | .literal old _ _ => if old = "" then .error (.emptyTarget rule.kind) else .ok ()
  | .block old _ => if old = "" then .error (.emptyTarget rule.kind) else .ok ()
  | .regex pattern _ flags => (compilePattern pattern flags).map fun _ => ()

def replaceText (mode : ReplaceMode) (old new buffer : String) : Application :=
  match Text.cut? old.toList buffer.toList with
  | none => .unchanged buffer
  | some (before, rest) =>
      match mode with
      | .first => ⟨String.ofList (before ++ new.toList ++ rest), .applied 1⟩
      | .all =>
          ⟨String.ofList (Text.replaceAll old.toList new.toList buffer.toList),
            .applied (Text.occurrences old.toList buffer.toList)⟩

/-- Replaces the matches of a regular expression. They are counted first, by a search of its own. -/
def replaceMatches (regex : Regex) (template buffer : String) : Application :=
  let text := buffer.toList
  match regex.count text with
  | 0 => .unchanged buffer
  | n + 1 =>
      ⟨String.ofList (regex.replaceAll (Regex.TemplatePart.parse 0 template.toList) text),
        .applied (n + 1)⟩

def apply (rule : Rule) (buffer : String) : Except RuleError Application :=
  match rule with
  | .literal old new mode =>
      if old = "" then .error (.emptyTarget rule.kind) else .ok (replaceText mode old new buffer)
  | .block old new =>
      if old = "" then .error (.emptyTarget rule.kind)
      else .ok (replaceText .first old new buffer)
  | .regex pattern template flags => do
      let regex ← compilePattern pattern flags
      return replaceMatches regex template buffer

end Rule

end Emend
