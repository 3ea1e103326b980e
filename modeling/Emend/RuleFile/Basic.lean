import Emend.RuleSet

/-! # Rule files

A rule file describes a rule set: a name and what else is known of the set, and a list of
definitions. `RuleFile.toRuleSet` is the set that it describes.
-/

namespace Emend

/-- What a definition says of its rule, by the fields that its kind has. -/
inductive Body where
  | literal (old new : String) (occurrences : ReplaceMode)
  | regex (pattern replacement : String)
      (multiLine caseInsensitive dotMatchesNewLine : Bool)
  | block (old new : String)
  deriving Repr, DecidableEq

def Body.toRule : Body → Rule
  | .literal old new occurrences => .literal old new occurrences
  | .regex pattern replacement multiLine caseInsensitive dotMatchesNewLine =>
      .regex pattern replacement { multiLine, caseInsensitive, dotMatchesNewLine }
  | .block old new => .block old new

/-- A rule with its identifier, as a rule file defines it. -/
structure Definition where
  id : String
  body : Body
  deriving Repr, DecidableEq

structure RuleFile where
  name : String
  description : Option String
  /-- The file that the rules are meant for if no other is named. -/
  target : Option String
  definitions : List Definition
  deriving Repr, DecidableEq

namespace RuleFile

def empty : RuleFile := ⟨"", none, none, []⟩

/-- The rule set that a file describes, with the rules in the order of their definitions. -/
def toRuleSet (file : RuleFile) : RuleSet where
  name := file.name
  description := file.description
  target := file.target
  rules := file.definitions.map fun d => ⟨d.id, d.body.toRule⟩

theorem map_id_toRuleSet (file : RuleFile) :
    file.toRuleSet.rules.map NamedRule.id = file.definitions.map Definition.id := by
  simp [toRuleSet, Function.comp_def]

end RuleFile

end Emend
