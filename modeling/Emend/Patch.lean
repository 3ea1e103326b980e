import Emend.Files
import Emend.Report

/-! # Patching files

A rule set is run on the text of a file. What would be written is planned first, and a
file is written only when every rule has been tried.
-/

namespace Emend

/-- The report of a rule set on a text of a file. -/
def Report.ofText (hints : Bool) (set : RuleSet) (file text : String) :
    Except PatchError Report :=
  (Run.apply hints text set.rules).map (.ofApplied file text)

variable {m : Type → Type} [Monad m] [Files m]

/-- Runs a rule set on the text of a file without writing anything. -/
def RuleSet.plan (set : RuleSet) (hints : Bool) (path : String) :
    m (Except PatchError Report) := do
  match ← Files.readText path with
  | .error reason => return .error (.file path reason)
  | .ok text => return Report.ofText hints set path text

/-- Overwrites the file of a report with the text behind the rules. -/
def Report.write (report : Report) : m (Except PatchError Report) := do
  match ← Files.writeText report.file report.buffer with
  | .error reason => return .error (.file report.file reason)
  | .ok () => return .ok { report with written := true }

/-- Runs a rule set on a file and overwrites it, however many rules found their target. -/
def RuleSet.run (set : RuleSet) (hints : Bool) (path : String) :
    m (Except PatchError Report) := do
  match ← set.plan hints path with
  | .error e => return .error e
  | .ok report => report.write

/-- The path of the copy that keeps a file as it is. -/
def backupPath (path : String) : String := path ++ ".orig"

/-- Copies a file to the path of its backup, and gives that path. -/
def snapshot (path : String) : m (Except PatchError String) := do
  match ← Files.copy path (backupPath path) with
  | .error reason => return .error (.file (backupPath path) reason)
  | .ok () => return .ok (backupPath path)

end Emend
