import Emend.Command.Arguments
import Emend.Command.Journal
import Emend.Command.Json
import Emend.RuleFile.Load

/-! # Commands

What the commands do to files and what they answer. `apply` plans a run and then writes
the file, unless it must not; `check` only plans. An answer has a status, which is zero
if all went well, and two texts: the result and what was told beside it.
-/

namespace Emend.Command

/-- How answers are to look. -/
structure Console where
  /-- Whether texts are shown in styles. -/
  color : Bool
  /-- How much is told of the work. -/
  verbosity : Nat
  deriving Repr, DecidableEq

structure Response where
  status : Nat
  out : String
  err : String
  deriving Repr, DecidableEq

/-- What makes a command give up. -/
inductive Failure where
  /-- The rule file cannot be used. -/
  | load (reason : LoadError)
  | unknownBuiltIn (name : String)
  /-- No file was named, and the rule set with this name has none. -/
  | noTarget (name : String)
  /-- The file cannot be patched. -/
  | patch (reason : PatchError)
  deriving DecidableEq

namespace Failure

def message (color : Bool) : Failure → String
  | .load reason => reason.message
  | .unknownBuiltIn name =>
      "unknown built-in rule set '" ++ name ++ "' (run `rulepatch list`)"
  | .noTarget name =>
      paint color .red "No file to patch." ++ "\n  rule set '" ++ name
        ++ "' has no default target; pass the file to patch explicitly"
  | .patch reason => reason.message

def cause? : Failure → Option String
  | .load reason => some reason.cause
  | .patch reason => some reason.cause
  | _ => none

def indent (text : String) : String :=
  String.ofList (List.intercalate ['\n']
    ((Text.pieces ['\n'] text.toList).map fun line => ' ' :: ' ' :: ' ' :: ' ' :: line))

def report (color : Bool) (failure : Failure) : String :=
  "Error: " ++ failure.message color ++ "\n"
    ++ match failure.cause? with
      | some cause => "\nCaused by:\n" ++ indent cause ++ "\n"
      | none => ""

end Failure

/-- The answer of a command that gives up when `out` and `err` have been written. -/
def Response.failed (console : Console) (out err : String) (failure : Failure) : Response :=
  ⟨1, out, err ++ failure.report console.color⟩

/-- The rules that a run is planned with, its file, and the report of the plan. -/
structure Plan where
  rules : RuleSet
  target : String
  report : Report
  deriving DecidableEq

/-- The file to patch: the one that is named, else that of the rule set. -/
def resolveTarget (file : Option String) (rules : RuleSet) : Except Failure String :=
  match file, rules.target with
  | some path, _ => .ok path
  | none, some path => .ok path
  | none, none => .error (.noTarget rules.name)

/-- The plan of a run on a file, given what reading the file gave. -/
def planOf (rules : RuleSet) (target : String) (text : Except FileError String) :
    Except Failure Plan :=
  match text with
  | .error reason => .error (.patch (.file target reason))
  | .ok text =>
      match Report.ofText true rules target text with
      | .error reason => .error (.patch reason)
      | .ok report => .ok ⟨rules, target, report⟩

/-- The journal of planning a run, given what reading the file gave. -/
def planEntries (console : Console) (rules : RuleSet) (target : String)
    (text : Except FileError String) : String :=
  match text with
  | .error _ => ""
  | .ok text => runEntries console.verbosity rules target text

def planText (console : Console) (plan : Plan) : String :=
  header plan.rules plan.target ++ records console.color plan.report

def reportText (report : Report) : String := (summaryJson report).pretty 0 ++ "\n"

/-- The end of what `apply` shows: the report as it is asked for. -/
def applyText (console : Console) (options : ApplyOptions) (report : Report) : String :=
  if options.json then reportText report
  else
    (if options.diff && report.changed then difference console.color report else "")
      ++ summary console.color report

/-- Why `apply` does not write a file. -/
def refusal (console : Console) (plan : Plan) : String :=
  paint console.color .red "✗" ++ " " ++ toString plan.report.skippedCount
    ++ " rule(s) skipped; not writing " ++ plan.target ++ " (--strict)\n"

/-- Whether a plan must not be carried out, because a rule found nothing. -/
def isRefused (options : ApplyOptions) (plan : Plan) : Bool :=
  options.strict && !plan.report.allApplied

variable {m : Type → Type} [Monad m] [Files m]

def RuleSource.load (source : RuleSource) : m (Except Failure RuleSet) :=
  match source with
  | .file path => do return (← RuleSet.load path).mapError .load
  | .builtIn name =>
      match BuiltIn.find? name with
      | some rules => return .ok rules
      | none => return .error (.unknownBuiltIn name)

/-- Plans a run, and gives the journal of it. Nothing is written. -/
def prepare (console : Console) (file : Option String) (source : RuleSource) :
    m (String × Except Failure Plan) := do
  match ← RuleSource.load source with
  | .error failure => return ("", .error failure)
  | .ok rules =>
      match resolveTarget file rules with
      | .error failure => return ("", .error failure)
      | .ok target => do
          let text ← Files.readText target
          return (planEntries console rules target text, planOf rules target text)

/-- Makes the backup of a file if it is wanted, and gives its path. -/
def backup (wanted : Bool) (target : String) : m (Except PatchError (Option String)) := do
  if wanted then return (← snapshot target).map some else return .ok none

/-- Writes the file of a plan, after its backup. -/
def carryOut (console : Console) (options : ApplyOptions) (out err : String) (plan : Plan) :
    m Response := do
  match ← backup options.backup plan.target with
  | .error reason => return .failed console out err (.patch reason)
  | .ok path? =>
      let note := match path? with
        | some path =>
            if options.json then ""
            else paint console.color .dimmed ("Backup: " ++ path) ++ "\n"
        | none => ""
      let out := out ++ note
      let err := err ++ match path? with
        | some path => backupEntry console.verbosity plan.target path
        | none => ""
      match ← plan.report.write with
      | .error reason => return .failed console out err (.patch reason)
      | .ok report =>
          return ⟨0, out ++ applyText console options report,
            err ++ writeEntry console.verbosity report⟩

/-- Applies a plan, unless nothing is to be written or the plan is refused. -/
def applyPlan (console : Console) (options : ApplyOptions) (err : String) (plan : Plan) :
    m Response := do
  let out := if options.json then "" else planText console plan
  let status := if isRefused options plan then 1 else 0
  if options.dryRun then
    let note := if options.json then ""
      else paint console.color .cyan "\n[DRY RUN - file not written]" ++ "\n"
    return ⟨status, out ++ note ++ applyText console options plan.report, err⟩
  else if isRefused options plan then
    return ⟨status, out ++ applyText console options plan.report,
      err ++ refusal console plan⟩
  else carryOut console options out err plan

/-- Runs rules on a file and writes the result. -/
def runApply (console : Console) (file : Option String) (source : RuleSource)
    (options : ApplyOptions) : m Response := do
  match ← prepare console file source with
  | (err, .error failure) => return .failed console "" err failure
  | (err, .ok plan) => applyPlan console options err plan

/-- The answer of `check` to a plan. -/
def checkPlan (console : Console) (json : Bool) (err : String) (plan : Plan) : Response :=
  let out :=
    if json then reportText plan.report
    else planText console plan ++ summary console.color plan.report
  ⟨if plan.report.allApplied then 0 else 1, out, err⟩

def runCheck (console : Console) (file : Option String) (source : RuleSource) (json : Bool) :
    m Response := do
  match ← prepare console file source with
  | (err, .error failure) => return .failed console "" err failure
  | (err, .ok plan) => return checkPlan console json err plan

def runList (console : Console) : Response :=
  ⟨0, String.join (BuiltIn.all.map (listing console.color)), ""⟩

def run (console : Console) : Command → m Response
  | .apply file source options => runApply console file source options
  | .check file source json => runCheck console file source json
  | .list => return runList console

def usage : String := unlines [
  "Apply an ordered set of text rules to one source file",
  "",
  "Usage: rulepatch [OPTIONS] <COMMAND>",
  "",
  "Commands:",
  "  apply  Apply a rule set to a file and write the result in place",
  "  check  Report which rules would apply, without writing",
  "  list   List built-in rule sets",
  "",
  "Options:",
  "  -v, --verbose  Tell more of the work (-v info, -vv debug)",
  "  -h, --help     Print help",
  "  -V, --version  Print version"]

def respond (color : Bool) (words : List String) : m Response :=
  match read? words with
  | none => return ⟨2, "", usage⟩
  | some .help => return ⟨0, usage, ""⟩
  | some .version => return ⟨0, "rulepatch 0.1.0\n", ""⟩
  | some (.run verbosity command) => run ⟨color, verbosity⟩ command

end Emend.Command
