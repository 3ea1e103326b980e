import Emend.Report

/-! # Reports as JSON

The summary of a report as data for other programs: a JSON text of several lines, indented
by two blanks a level, with the fields in a fixed order.
-/

namespace Emend.Command

/-- A JSON value. Numbers are held as they are written. -/
inductive Json where
  | text (value : String)
  | number (digits : String)
  | boolean (value : Bool)
  | array (items : List Json)
  | object (fields : List (String × Json))

namespace Json

def ofNat (n : Nat) : Json := .number (toString n)

/-- The digits of a control character's number, which is below 32. -/
def controlDigits (n : Nat) : List Char :=
  ['\\', 'u', '0', '0', Nat.digitChar (n / 16), Nat.digitChar (n % 16)]

def escapeChar (c : Char) : List Char :=
  if c = '"' then ['\\', '"']
  else if c = '\\' then ['\\', '\\']
  else if c = '\n' then ['\\', 'n']
  else if c = '\r' then ['\\', 'r']
  else if c = '\t' then ['\\', 't']
  else if c = '\x08' then ['\\', 'b']
  else if c = '\x0c' then ['\\', 'f']
  else if c < ' ' then controlDigits c.toNat
  else [c]

def string (text : String) : String :=
  String.ofList ('"' :: text.toList.flatMap escapeChar ++ ['"'])

/-- A line break and the indent of a level. -/
def lineBreak (level : Nat) : String :=
  "\n" ++ String.ofList (List.replicate (2 * level) ' ')

/-- Parts between brackets, each on lines of its own. -/
def bracket (opening closing : String) (level : Nat) (parts : List String) : String :=
  if parts.isEmpty then opening ++ closing
  else
    opening ++ lineBreak (level + 1) ++ String.intercalate ("," ++ lineBreak (level + 1)) parts
      ++ lineBreak level ++ closing

mutual

def pretty (level : Nat) : Json → String
  | .text s => string s
  | .number digits => digits
  | .boolean value => toString value
  | .array items => bracket "[" "]" level (prettyItems (level + 1) items)
  | .object fields => bracket "\x7b" "\x7d" level (prettyFields (level + 1) fields)

def prettyItems (level : Nat) : List Json → List String
  | [] => []
  | item :: items => pretty level item :: prettyItems level items

def prettyFields (level : Nat) : List (String × Json) → List String
  | [] => []
  | (name, value) :: fields =>
      (string name ++ ": " ++ pretty level value) :: prettyFields level fields

end

end Json

def outcomeJson : Outcome → Json
  | .applied n => .object [("status", .text "applied"), ("replacements", .ofNat n)]
  | .noMatch => .object [("status", .text "no-match")]

def hintJson (hint : NearMiss Binary64) : Json := .object [
  ("line", .ofNat hint.line),
  ("similarity", .number (hint.similarity.shortest .toEven).positional),
  ("divergent_line", .ofNat hint.divergentLine),
  ("found", .text hint.found),
  ("expected", .text hint.expected)]

def recordJson (record : Record) : Json :=
  let hint := record.hint.map fun hint => ("hint", hintJson hint)
  .object ([
    ("index", .ofNat record.index),
    ("id", .text record.id),
    ("kind", .text record.kind.name),
    ("outcome", outcomeJson record.outcome)] ++ hint.toList)

/-- The summary of a report, without the texts. -/
def summaryJson (report : Report) : Json := .object [
  ("file", .text report.file),
  ("written", .boolean report.written),
  ("changed", .boolean report.changed),
  ("applied", .ofNat report.appliedCount),
  ("skipped", .ofNat report.skippedCount),
  ("original_digest", .text report.beforeDigest),
  ("buffer_digest", .text report.bufferDigest),
  ("rules", .array (report.records.map recordJson))]

end Emend.Command
