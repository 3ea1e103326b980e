import Emend.BuiltIn
import Emend.Command.Style
import Emend.Report

/-! # Reports on a screen

What the commands show people: the rules and the file, a line for every rule with the near
miss of a rule that found nothing, the lines that change, and the counts at the end.
-/

namespace Emend.Command

/-- Lines, each with its end. -/
def unlines (lines : List String) : String :=
  String.join (lines.map fun line => line ++ "\n")

def withoutEnd (text : String) : String := String.ofList (Text.trimEnd text.toList)

/-- A score in whole per cent, a half going to the even neighbour. -/
def percent (score : Binary64) : String := toString (score.mulNat 100).round ++ "%"

def header (rules : RuleSet) (target : String) : String :=
  unlines ["Rules: " ++ rules.name ++ " (" ++ toString rules.rules.length ++ " rules)",
    "File: " ++ target, ""]

def hintLines (color : Bool) (hint : NearMiss Binary64) : List String := [
  "    " ++ paint color .yellow
    ("closest match at line " ++ toString hint.line ++ " (" ++ percent hint.similarity
      ++ " similar), first difference at line " ++ toString hint.divergentLine ++ ":"),
  "      expected: " ++ paint color .dimmed (withoutEnd hint.expected),
  "      found:    " ++ paint color .dimmed (withoutEnd hint.found)]

def recordLines (color : Bool) (record : Record) : List String :=
  let named := " #" ++ toString record.index ++ " " ++ record.id
    ++ " [" ++ record.kind.name ++ "]: "
  match record.outcome with
  | .applied _ => [paint color .green "✓" ++ named ++ record.outcome.message]
  | .noMatch =>
      (paint color .yellow "⊘" ++ named ++ "skipped (expected text not found)")
        :: (record.hint.map (hintLines color)).getD []

def records (color : Bool) (report : Report) : String :=
  unlines (report.records.flatMap (recordLines color))

/-- The counts of a report, and whether the file has been written. -/
def summary (color : Bool) (report : Report) : String :=
  let count := fun style n => paint color style (toString (n : Nat))
  unlines ([
    "",
    paint color .bold "Summary:",
    "  " ++ count .green report.appliedCount ++ " applied",
    "  " ++ count .yellow report.skippedCount ++ " skipped",
    "  " ++ (if report.written then paint color .green ("wrote " ++ report.file)
      else paint color .dimmed "not written")]
    ++ (if report.allApplied then [] else [paint color .yellow
      "Some rules were skipped: review the file manually before relying on it"]))

/-- A line of a difference behind its sign. A line without end gets one. -/
def markedLine (color : Bool) (mark : Diff.LineMark) (line : List Char) : String :=
  let ended := if Diff.isUnended line then line ++ ['\n'] else line
  let text := String.ofList (mark.sign :: ended)
  match mark with
  | .same => text
  | .removed => paint color .red text
  | .added => paint color .green text

/-- All lines of a file, with those that go and come. -/
def difference (color : Bool) (report : Report) : String :=
  "\n" ++ unlines [
      paint color .dimmed ("--- " ++ report.file ++ " (original)"),
      paint color .dimmed ("+++ " ++ report.file ++ " (patched)")]
    ++ String.join (((Diff.between report.before report.buffer).flatMap Diff.Change.marked).map
      fun (mark, line) => markedLine color mark line)

def listing (color : Bool) (set : RuleSet) : String :=
  unlines ([paint color .bold set.name]
    ++ (set.description.map fun text => "  " ++ text).toList
    ++ (set.target.map fun path => "  " ++ paint color .dimmed ("target: " ++ path)).toList
    ++ set.rules.mapIdx (fun index named =>
      "  " ++ String.ofList (Text.alignRight 2 (toString index).toList) ++ ". " ++ named.id
        ++ " [" ++ named.rule.kind.name ++ "]")
    ++ [""])

end Emend.Command
