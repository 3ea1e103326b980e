import Emend.FileError
import Emend.NearMiss
import Emend.RuleSet

/-! # Runs

A run threads a buffer through the rules of a list. Each rule sees what the rule before
it left, and leaves a record of its outcome. A rule that finds nothing does not stop the
run; a rule that cannot be applied to any buffer does.
-/

namespace Emend

inductive PatchError where
  /-- A file operation fails. -/
  | file (path : String) (reason : FileError)
  /-- A rule cannot be applied. -/
  | rule (index : Nat) (id : String) (reason : RuleError)
  deriving Repr, DecidableEq

def PatchError.cause : PatchError → String
  | .file _ reason => reason.message
  | .rule _ _ reason => reason.message

def PatchError.message : PatchError → String
  | .file path reason => "I/O error on " ++ path ++ ": " ++ reason.message
  | .rule index id reason =>
      "rule #" ++ toString index ++ " (" ++ id ++ ") is malformed: " ++ reason.message

/-- What one rule did in a run. -/
structure Record where
  /-- The place of the rule in its list, counted from zero. -/
  index : Nat
  id : String
  kind : RuleKind
  outcome : Outcome
  /-- The near miss of a text that was not found. -/
  hint : Option (NearMiss Binary64)
  deriving Repr, DecidableEq

/-- The buffer behind a list of rules, with what each of them did. -/
structure Applied where
  buffer : String
  records : List Record
  deriving Repr, DecidableEq

namespace Run

/-- The hint for a rule that was applied to a buffer: only for a text that was not found. -/
def hint? (hints : Bool) (buffer : String) (rule : Rule) (outcome : Outcome) :
    Option (NearMiss Binary64) :=
  match outcome, rule.expectedText? with
  | .noMatch, some expected =>
      if hints then NearMiss.find? NearMiss.leastScore buffer expected else none
  | _, _ => none

/-- Applies rules from a place of their list on. -/
def applyFrom (hints : Bool) (index : Nat) (buffer : String) :
    List NamedRule → Except PatchError Applied
  | [] => .ok ⟨buffer, []⟩
  | named :: rest =>
      match named.rule.apply buffer with
      | .error e => .error (.rule index named.id e)
      | .ok application =>
          let record : Record := {
            index, id := named.id, kind := named.rule.kind
            outcome := application.outcome
            hint := hint? hints buffer named.rule application.outcome }
          (applyFrom hints (index + 1) application.buffer rest).map fun applied =>
            { applied with records := record :: applied.records }

/-- Applies a list of rules to a buffer, with hints or without. -/
def apply (hints : Bool) (buffer : String) (rules : List NamedRule) :
    Except PatchError Applied :=
  applyFrom hints 0 buffer rules

end Run

end Emend
