import Emend.Diff.Unified
import Emend.Digest
import Emend.Run

/-! # Reports

What a run did to a file: the records of its rules, the text before and behind them, and
whether that has been written.
-/

namespace Emend

/-- The report of a run on a file. That there is one does not mean that every rule found
its target. -/
structure Report where
  file : String
  records : List Record
  /-- The text of the file before the first rule. -/
  before : String
  /-- The text behind the last rule. -/
  buffer : String
  /-- Whether the buffer has been written to the file. -/
  written : Bool
  deriving Repr, DecidableEq

namespace Report

/-- The report of a run that has not been written. -/
def ofApplied (file before : String) (applied : Applied) : Report :=
  ⟨file, applied.records, before, applied.buffer, false⟩

def appliedCount (r : Report) : Nat :=
  r.records.countP fun record => record.outcome.isApplied

def skippedCount (r : Report) : Nat := r.records.length - r.appliedCount

def allApplied (r : Report) : Bool := r.skippedCount == 0

def changed (r : Report) : Bool := r.before != r.buffer

def outcomes (r : Report) : List (Nat × Outcome) :=
  r.records.map fun record => (record.index, record.outcome)

def unifiedDiff (r : Report) : String := Diff.unified r.file r.before r.buffer

def beforeDigest (r : Report) : String := Digest.hex r.before

def bufferDigest (r : Report) : String := Digest.hex r.buffer

end Report

end Emend
