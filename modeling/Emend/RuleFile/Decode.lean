import Emend.RuleFile.Basic
import Emend.Toml.Document
import Emend.Toml.Mismatch

/-! # Rule files as documents

The contents of a rule file are read off a document. Keys are visited in the order of the
document and the first mismatch is reported; keys that mean nothing here are passed over.
A mismatch in a definition is reported at the definition, unless it concerns its
identifier.
-/

namespace Emend.RuleFile

open Toml

/-- A mismatch of a value with what is expected in its place. -/
def expected {α : Type} (span : Span) (node : Node) (what : String) : Except Mismatch α :=
  .error ⟨span, .wrongShape node.shape what⟩

def textOf (span : Span) (node : Node) : Except Mismatch String :=
  match node with
  | .scalar _ (.string text) => .ok text
  | _ => expected span node "a string"

def flagOf (span : Span) (node : Node) : Except Mismatch Bool :=
  match node with
  | .scalar _ (.boolean value) => .ok value
  | _ => expected span node "a boolean"

/-- The place at which a mismatch of the value of a key is reported. -/
def spanOf (key : Key) (node : Node) : Span := node.span?.getD key.span

/-- Reads one entry of what is known of the set. -/
def readInfo (file : RuleFile) (name : String) (span : Span) (node : Node) :
    Except Mismatch RuleFile :=
  match name with
  | "name" => do return { file with name := ← textOf span node }
  | "description" => do return { file with description := some (← textOf span node) }
  | "target" => do return { file with target := some (← textOf span node) }
  | _ => .ok file

/-- What is known of the set, given under keys or as a list in a fixed order. -/
def infoOf (file : RuleFile) (span : Span) (node : Node) : Except Mismatch RuleFile :=
  match node with
  | .table t =>
      t.entries.foldlM
        (fun file (key, node) => readInfo file key.text (spanOf key node) node) file
  | .array _ items => listed (items.map fun node => (node.span?.getD span, node))
  | .tables _ items => listed (items.map fun t => (t.span.getD span, .table t))
  | .scalar _ .datetime => .ok file
  | _ => expected span node "struct Metadata"
where
  listed (items : List (Span × Node)) : Except Mismatch RuleFile :=
    (["name", "description", "target"].zip items).foldlM
      (fun file (name, span, node) => readInfo file name span node) file

def kindOf (span : Span) (node : Node) : Except Mismatch RuleKind :=
  match node with
  | .scalar _ (.string "literal") => .ok .literal
  | .scalar _ (.string "regex") => .ok .regex
  | .scalar _ (.string "block") => .ok .block
  | .scalar _ (.string name) =>
      .error ⟨span, .unknownChoice name ["literal", "regex", "block"]⟩
  | _ => expected span node "variant identifier"

def modeOf (span : Span) (name : String) : Except Mismatch ReplaceMode :=
  match name with
  | "first" => .ok .first
  | "all" => .ok .all
  | _ => .error ⟨span, .unknownChoice name ["first", "all"]⟩

/-- Which occurrences to replace: a name, or a name as a key with nothing as its value. -/
def occurrencesOf (span : Span) (node : Node) : Except Mismatch ReplaceMode :=
  match node with
  | .scalar _ (.string name) => modeOf span name
  | .scalar _ .datetime => modeOf span datetimeKey
  | .table t =>
      match t.entries with
      | [(key, value)] => do
          let mode ← modeOf span key.text
          match value with
          | .table ⟨_, _, []⟩ => return mode
          | _ => expected span value "unit"
      | _ => .error ⟨span, .manyKeys⟩
  | _ => expected span node "string or map"

/-- The fields of a definition as far as they have been read. -/
structure Fields where
  old : Option String := none
  new : Option String := none
  pattern : Option String := none
  replacement : Option String := none
  occurrences : ReplaceMode := .all
  multiLine : Bool := false
  caseInsensitive : Bool := false
  dotMatchesNewLine : Bool := false

/-- Reads one field. The kind of a rule decides which fields it has. -/
def Fields.read (kind : RuleKind) (span : Span) (fields : Fields) (name : String)
    (node : Node) : Except Mismatch Fields :=
  match kind, name with
  | .literal, "occurrences" => do
      return { fields with occurrences := ← occurrencesOf span node }
  | .regex, "pattern" => do return { fields with pattern := some (← textOf span node) }
  | .regex, "replacement" => do return { fields with replacement := some (← textOf span node) }
  | .regex, "multi_line" => do return { fields with multiLine := ← flagOf span node }
  | .regex, "case_insensitive" => do
      return { fields with caseInsensitive := ← flagOf span node }
  | .regex, "dot_matches_new_line" => do
      return { fields with dotMatchesNewLine := ← flagOf span node }
  | .regex, _ => .ok fields
  | _, "old" => do return { fields with old := some (← textOf span node) }
  | _, "new" => do return { fields with new := some (← textOf span node) }
  | _, _ => .ok fields

def require (span : Span) (name : String) (field : Option String) : Except Mismatch String :=
  match field with
  | some text => .ok text
  | none => .error ⟨span, .missingField name⟩

/-- The body that the fields of a definition make. -/
def Fields.toBody (kind : RuleKind) (span : Span) (fields : Fields) : Except Mismatch Body :=
  match kind with
  | .literal => do
      return .literal (← require span "old" fields.old) (← require span "new" fields.new)
        fields.occurrences
  | .regex => do
      return .regex (← require span "pattern" fields.pattern)
        (← require span "replacement" fields.replacement)
        fields.multiLine fields.caseInsensitive fields.dotMatchesNewLine
  | .block => do
      return .block (← require span "old" fields.old) (← require span "new" fields.new)

/-- Reads a definition. Its kind is looked at when its identifier is known, and its
fields when its kind is known. -/
def definitionOf (span : Span) (node : Node) : Except Mismatch Definition :=
  match node with
  | .table t => do
      let id ← match t.entries.find? fun entry => entry.1.text == "id" with
        | some (key, node) => textOf (spanOf key node) node
        | none => .error ⟨span, .missingField "id"⟩
      let kind ← match t.get? "type" with
        | some node => kindOf span node
        | none => .error ⟨span, .missingField "type"⟩
      let fields ← t.entries.foldlM
        (fun fields (key, node) => fields.read kind span key.text node) ({} : Fields)
      return ⟨id, ← fields.toBody kind span⟩
  | .scalar _ .datetime => .error ⟨span, .missingField "id"⟩
  | _ => expected span node "struct RuleDefinition"

def definitionsOf (span : Span) (node : Node) : Except Mismatch (List Definition) :=
  match node with
  | .array _ items => items.mapM fun node => definitionOf (node.span?.getD span) node
  | .tables _ items => items.mapM fun t => definitionOf (t.span.getD span) (.table t)
  | _ => expected span node "a sequence"

def ofDocument (document : Table Node) : Except Mismatch RuleFile :=
  document.entries.foldlM
    (fun file (key, node) =>
      match key.text with
      | "meta" => infoOf file (spanOf key node) node
      | "rules" => do
          return { file with definitions := ← definitionsOf (spanOf key node) node }
      | _ => .ok file)
    empty

end Emend.RuleFile
