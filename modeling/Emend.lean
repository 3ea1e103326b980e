import Emend.Binary64
import Emend.BuiltIn
import Emend.Command.Arguments
import Emend.Command.Basic
import Emend.Command.Journal
import Emend.Command.Json
import Emend.Command.Screen
import Emend.Command.Style
import Emend.Diff.Change
import Emend.Diff.Compaction
import Emend.Diff.Edit
import Emend.Diff.Script
import Emend.Diff.Snake
import Emend.Diff.Unified
import Emend.Digest
import Emend.FileError
import Emend.Files
import Emend.Main
import Emend.NearMiss
import Emend.Patch
import Emend.Proofs.AcceptedRuleFiles
import Emend.Proofs.ApplyCommand
import Emend.Proofs.Backup
import Emend.Proofs.BackupPlace
import Emend.Proofs.BareSearch
import Emend.Proofs.ChangedBuffers
import Emend.Proofs.CheckCommand
import Emend.Proofs.CompactScripts
import Emend.Proofs.Disk
import Emend.Proofs.Drift
import Emend.Proofs.EditDistance
import Emend.Proofs.EditMoves
import Emend.Proofs.EditScripts
import Emend.Proofs.EveryIssue
import Emend.Proofs.ExactRules
import Emend.Proofs.Exhaustion
import Emend.Proofs.FaithfulDiffs
import Emend.Proofs.Faultless
import Emend.Proofs.FileRun
import Emend.Proofs.FirstEdits
import Emend.Proofs.FirstFault
import Emend.Proofs.Flaws
import Emend.Proofs.HintedLines
import Emend.Proofs.Hints
import Emend.Proofs.HunkPlaces
import Emend.Proofs.IndependentRules
import Emend.Proofs.KeptBackup
import Emend.Proofs.LineEnds
import Emend.Proofs.LoadedFiles
import Emend.Proofs.MostReplacements
import Emend.Proofs.NearMissPlace
import Emend.Proofs.NearMissSearch
import Emend.Proofs.Occurrences
import Emend.Proofs.OfficialMatches
import Emend.Proofs.PatchReading
import Emend.Proofs.PatternRules
import Emend.Proofs.PlacedChanges
import Emend.Proofs.Places
import Emend.Proofs.PlainPatterns
import Emend.Proofs.PlainRules
import Emend.Proofs.Planned
import Emend.Proofs.Repeats
import Emend.Proofs.Replacements
import Emend.Proofs.ReportedRepeats
import Emend.Proofs.RunComposition
import Emend.Proofs.RunSteps
import Emend.Proofs.SettledRuns
import Emend.Proofs.SkippedRules
import Emend.Proofs.SuccessiveMatches
import Emend.Proofs.TextPieces
import Emend.Proofs.TextSearch
import Emend.Proofs.Undoing
import Emend.Proofs.UnifiedPatches
import Emend.Regex.Basic
import Emend.Regex.Bracket
import Emend.Regex.Cursor
import Emend.Regex.Escape
import Emend.Regex.Expr
import Emend.Regex.Fault
import Emend.Regex.Footprint.Basic
import Emend.Regex.Footprint.Expr
import Emend.Regex.Footprint.Set
import Emend.Regex.Footprint.Words
import Emend.Regex.Meaning
import Emend.Regex.Parser
import Emend.Regex.Program
import Emend.Regex.Search
import Emend.Regex.Syntax
import Emend.Regex.Template
import Emend.Report
import Emend.Rule
import Emend.RuleFile.Basic
import Emend.RuleFile.Decode
import Emend.RuleFile.Issue
import Emend.RuleFile.Load
import Emend.RuleSet
import Emend.Run
import Emend.Score
import Emend.Store
import Emend.Text.EditDistance
import Emend.Text.Line
import Emend.Text.Occurrence
import Emend.Text.Quoted
import Emend.Toml.Document
import Emend.Toml.Mismatch
import Emend.Toml.Quoted
import Emend.Toml.Reader
import Emend.Toml.Scalar
import Emend.Toml.Table
import Emend.Unicode.ByteRange
import Emend.Unicode.Category
import Emend.Unicode.CharSet
import Emend.Unicode.Folding
import Emend.Unicode.Newer
import Emend.Unicode.Property
import Emend.Unicode.Query
import Emend.Unicode.Script
import Emend.Unicode.Segment
