import Emend.Rule

/-! # Rule sets

An ordered list of rules for one job. Every rule has an identifier that reports name it
by; identifiers are not required to differ.
-/

namespace Emend

/-- A rule with the identifier it is reported under. -/
structure NamedRule where
  id : String
  rule : Rule
  deriving Repr, DecidableEq

/-- An ordered list of rules, applied from the first to the last. -/
structure RuleSet where
  name : String
  description : Option String
  /-- The file that the set is meant for if no other is named. -/
  target : Option String
  rules : List NamedRule
  deriving Repr, DecidableEq

namespace RuleSet

def new (name : String) : RuleSet := ⟨name, none, none, []⟩

def withDescription (set : RuleSet) (text : String) : RuleSet :=
  { set with description := some text }

def withTarget (set : RuleSet) (path : String) : RuleSet :=
  { set with target := some path }

def add (set : RuleSet) (id : String) (rule : Rule) : RuleSet :=
  { set with rules := set.rules ++ [⟨id, rule⟩] }

/-- Adds a rule that replaces every occurrence of a text. -/
def literal (set : RuleSet) (id old new : String) : RuleSet :=
  set.add id (.literal old new .all)

/-- Adds a rule that replaces the leftmost occurrence of a text. -/
def literalFirst (set : RuleSet) (id old new : String) : RuleSet :=
  set.add id (.literal old new .first)

def block (set : RuleSet) (id old new : String) : RuleSet :=
  set.add id (.block old new)

/-- Adds a rule that replaces the matches of a pattern, with flags or without. -/
def regex (set : RuleSet) (id pattern template : String) (flags : Regex.Flags := .none) :
    RuleSet :=
  set.add id (.regex pattern template flags)

/-- Collects the identifiers that are met again: `seen` holds those met before, `found`
those met again before. -/
def repeatedIds (seen found : List String) : List NamedRule → List String
  | [] => found
  | named :: rest =>
      if seen.contains named.id then
        repeatedIds seen (if found.contains named.id then found else found ++ [named.id]) rest
      else repeatedIds (named.id :: seen) found rest

/-- The identifiers that more than one rule has, each once. They come in the order in
which they are met for the second time. -/
def duplicateIds (set : RuleSet) : List String := repeatedIds [] [] set.rules

/-- Checks rules from a place of a set on, and gives the place of the first faulty one. -/
def validateFrom (index : Nat) : List NamedRule → Except (Nat × RuleError) Unit
  | [] => .ok ()
  | named :: rest =>
      match named.rule.validate with
      | .ok () => validateFrom (index + 1) rest
      | .error e => .error (index, e)

def validate (set : RuleSet) : Except (Nat × RuleError) Unit := validateFrom 0 set.rules

end RuleSet

end Emend
