import Emend.RuleFile.Basic
import Emend.Text.Line

/-! # Issues of rule files

A rule file can be well formed and its rules still not be fit to run. Every issue is
found, so that one does not hide another.
-/

namespace Emend

/-- The fields whose absence is an issue. -/
inductive Field where
  | id | old | pattern
  deriving Repr, DecidableEq

def Field.name : Field → String
  | .id => "id"
  | .old => "old"
  | .pattern => "pattern"

/-- What is wrong with a rule file. Issues with a rule that has no identifier have no
label. -/
inductive Issue where
  /-- There are no rules. -/
  | noRules
  /-- A field that has to say something says nothing. -/
  | missingField (label : Option String) (field : Field)
  /-- An earlier rule has the same identifier. -/
  | duplicateId (id : String)
  /-- The rule could not be applied. -/
  | invalidRule (label : Option String) (reason : RuleError)
  deriving Repr, DecidableEq

def Issue.message : Issue → String
  | .noRules => "rule file contains no rules"
  | .missingField (some id) field =>
      "rule '" ++ id ++ "' missing required field '" ++ field.name ++ "'"
  | .missingField none field => "rule missing required field '" ++ field.name ++ "'"
  | .duplicateId id => "rule id '" ++ id ++ "' is used more than once"
  | .invalidRule (some id) reason => "rule '" ++ id ++ "' is invalid: " ++ reason.message
  | .invalidRule none reason => "invalid rule: " ++ reason.message

namespace Definition

def isAnonymous (d : Definition) : Bool := Text.isBlank d.id.toList

/-- The identifier as the label of an issue. -/
def label? (d : Definition) : Option String := if d.isAnonymous then none else some d.id

/-- The issue with the identifier of a rule behind rules with the identifiers `seen`. -/
def idIssue? (seen : List String) (d : Definition) : Option Issue :=
  if d.isAnonymous then some (.missingField none .id)
  else if seen.contains d.id then some (.duplicateId d.id)
  else none

/-- The issue with the body of a rule. A block has to have more than white space. -/
def bodyIssue? (d : Definition) : Option Issue :=
  match d.body with
  | .literal old _ _ => if old = "" then some (.missingField d.label? .old) else none
  | .block old _ => if Text.isBlank old.toList then some (.missingField d.label? .old) else none
  | .regex pattern .. =>
      if pattern = "" then some (.missingField d.label? .pattern)
      else match d.body.toRule.validate with
        | .ok () => none
        | .error reason => some (.invalidRule d.label? reason)

end Definition

namespace RuleFile

/-- The issues of definitions behind rules with the identifiers `seen`. -/
def issuesBehind (seen : List String) : List Definition → List Issue
  | [] => []
  | d :: rest =>
      (d.idIssue? seen).toList ++ d.bodyIssue?.toList
        ++ issuesBehind (if d.isAnonymous then seen else d.id :: seen) rest

/-- The issues of a rule file: for each rule in order that with its identifier, then
that with its body. -/
def issues (file : RuleFile) : List Issue :=
  (if file.definitions.isEmpty then [.noRules] else []) ++ issuesBehind [] file.definitions

end RuleFile

end Emend
