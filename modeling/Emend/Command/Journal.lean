import Emend.Command.Screen
import Emend.Patch
import Emend.Text.Quoted

/-! # The journal

What a command does step by step, for those who ask for it. An entry has a level, and
only entries up to the level asked for are written.
-/

namespace Emend.Command

/-- How much an entry tells. -/
inductive Level where
  | info | debug
  deriving Repr, DecidableEq

def Level.name : Level → String
  | .info => "INFO"
  | .debug => "DEBUG"

def Level.isShown (verbosity : Nat) : Level → Bool
  | .info => 1 ≤ verbosity
  | .debug => 2 ≤ verbosity

/-- A line of the journal, if its level is shown. -/
def entry (verbosity : Nat) (level : Level) (message : String)
    (fields : Unit → List (String × String)) : String :=
  if level.isShown verbosity then
    unlines [String.intercalate " " (level.name :: message
      :: (fields ()).map fun (name, value) => name ++ "=" ++ value)]
  else ""

/-- The records of rules up to the first one that cannot be applied. -/
def attempted (text : String) (rules : List NamedRule) : List Record :=
  match Run.apply true text rules with
  | .ok applied => applied.records
  | .error (.rule index _ _) =>
      match Run.apply true text (rules.take index) with
      | .ok applied => applied.records
      | .error _ => []
  | .error (.file ..) => []

def recordEntry (verbosity : Nat) (record : Record) : String :=
  entry verbosity .debug "rule attempted" fun () => [
    ("index", toString record.index),
    ("id", record.id),
    ("kind", Text.quote record.kind.name),
    ("outcome", record.outcome.message)]
      ++ (record.hint.map fun hint => ("near_miss", toString hint.divergentLine)).toList

def runEntries (verbosity : Nat) (set : RuleSet) (path text : String) : String :=
  if Level.debug.isShown verbosity then
    entry verbosity .debug "loaded buffer" (fun () => [
        ("path", path),
        ("rules", toString set.rules.length),
        ("set", Text.quote set.name)])
      ++ String.join ((attempted text set.rules).map (recordEntry verbosity))
  else ""

def backupEntry (verbosity : Nat) (path backup : String) : String :=
  entry verbosity .debug "snapshot taken" fun () => [("from", path), ("to", backup)]

def writeEntry (verbosity : Nat) (report : Report) : String :=
  entry verbosity .info "wrote patched file" fun () => [
    ("path", report.file),
    ("bytes", toString report.buffer.utf8ByteSize),
    ("applied", toString report.appliedCount),
    ("skipped", toString report.skippedCount)]

end Emend.Command
