import Emend.Files
import Emend.RuleFile.Decode
import Emend.RuleFile.Issue

/-! # Loading rule files

A text is a rule file if it is a document, the document has the shape of a rule file, and
there are no issues with the rules. A file is loaded by reading its text, and its errors
carry its path.
-/

namespace Emend

/-- Why a rule file cannot be used. Errors of a text that is no file have no path. -/
inductive LoadError where
  | unreadable (path : String) (reason : FileError)
  /-- The text is not a document. -/
  | malformed (path : Option String) (text : String) (fault : Toml.Fault)
  /-- The document has not the shape of a rule file. -/
  | misshapen (path : Option String) (text : String) (mismatch : Toml.Mismatch)
  /-- The rules are not fit to run. -/
  | invalid (path : Option String) (issues : List Issue)
  deriving DecidableEq

namespace LoadError

/-- The same error of the text of a file. -/
def withPath (path : String) : LoadError → LoadError
  | .malformed none text fault => .malformed (some path) text fault
  | .misshapen none text mismatch => .misshapen (some path) text mismatch
  | .invalid none issues => .invalid (some path) issues
  | e => e

def cause : LoadError → String
  | .unreadable _ reason => reason.message
  | .malformed _ text fault => fault.report text
  | .misshapen _ text mismatch => mismatch.report text
  | .invalid _ issues => String.intercalate "\n" (issues.map Issue.message)

/-- A path as errors show it behind what failed. -/
def located : Option String → String
  | some path => " (" ++ path ++ ")"
  | none => ""

def message (e : LoadError) : String :=
  match e with
  | .unreadable path _ => "failed to read rule file " ++ path ++ ": " ++ e.cause
  | .malformed path _ _ => "failed to parse rule file TOML" ++ located path ++ ": " ++ e.cause
  | .misshapen path _ _ => "failed to parse rule file TOML" ++ located path ++ ": " ++ e.cause
  | .invalid path _ => "invalid rule file" ++ located path ++ ": " ++ e.cause

end LoadError

namespace RuleFile

def validate (file : RuleFile) : Except (List Issue) Unit :=
  if file.issues.isEmpty then .ok () else .error file.issues

/-- The contents of a rule file, without a look at its rules. -/
def decode (text : String) : Except LoadError RuleFile :=
  match Toml.Document.read text with
  | .error fault => .error (.malformed none text fault)
  | .ok document => (ofDocument document).mapError (.misshapen none text)

def ofText (text : String) : Except LoadError RuleFile :=
  match decode text with
  | .error e => .error e
  | .ok file =>
      match file.validate with
      | .ok () => .ok file
      | .error issues => .error (.invalid none issues)

/-- Reads a file as a rule file, given what reading the file gave. -/
def ofRead (path : String) : Except FileError String → Except LoadError RuleFile
  | .error reason => .error (.unreadable path reason)
  | .ok text => (ofText text).mapError (.withPath path)

variable {m : Type → Type} [Monad m] [Files m]

def load (path : String) : m (Except LoadError RuleFile) := do
  return ofRead path (← Files.readText path)

end RuleFile

def RuleSet.load {m : Type → Type} [Monad m] [Files m] (path : String) :
    m (Except LoadError RuleSet) := do
  return (← RuleFile.load path).map RuleFile.toRuleSet

end Emend
