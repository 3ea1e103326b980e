import Emend.Toml.Table

/-! # Documents

A document is a list of sections: a header, which the first section lacks, and the values
below it. `Document.read` reads a document into one table, or tells where this cannot go on.
-/

namespace Emend.Toml

namespace Reader

def isKeyChar (c : Char) : Bool := c.isAlphanum || c == '_' || c == '-'

def simpleKey : Reader Key := do
  let (span, text) ← spanned do
    match ← peek? with
    | some '"' => shortString '"'
    | some '\'' => shortString '\''
    | _ =>
        let text ← takeWhile isKeyChar
        if text.isEmpty then refuse .emptyKey
        return String.ofList text
  return ⟨span, text⟩

/-- How deep values can stand in one another, and how many keys dots can part. -/
def depthLimit : Nat := 80

/-- Reads keys parted by dots: all but the last, and the last. `taken` holds the keys
before, last first. -/
def dottedKeys (taken : List Key) : (fuel : Nat) → Reader (List Key × Key)
  | 0 => refuse .unfinished
  | fuel + 1 => do
      blanks
      let key ← simpleKey
      blanks
      if ← accept ['.'] then dottedKeys (key :: taken) fuel else return (taken.reverse, key)

def dottedKey : Reader (List Key × Key) := do
  let start ← place
  let (path, key) ← loop (dottedKeys [])
  unless path.length < depthLimit do refuseFrom start .tooDeep
  return (path, key)

/-- Reads a key and the value behind it, with `space` around the sign between them. -/
def assignment (space : Reader Unit) (value : Reader Node) : Reader Table.Assignment := do
  let (path, key) ← dottedKey
  space
  expect ['='] .noEquals
  space
  return ⟨path, key, ← value⟩

/-- What is written between brackets, as faults name it. -/
structure Enclosure where
  name : String
  members : String
  close : Char

def Enclosure.array : Enclosure := ⟨"array", "array elements", ']'⟩

def Enclosure.inlineTable : Enclosure := ⟨"inline table", "key-value pairs", '\x7d'⟩

/-- Fails where the text ends before its closing character. -/
def Enclosure.goesOn (within : Enclosure) : Reader Unit := do
  if (← peek?).isNone then refuse (.unclosed within.name (String.singleton within.close))

/-- Reads items parted by commas up to a closing character. A comma may stand behind the
last item. `taken` holds the items before, last first. -/
def items {α : Type} (item : Reader α) (within : Enclosure) (taken : List α) :
    (fuel : Nat) → Reader (List α)
  | 0 => refuse .unfinished
  | fuel + 1 => do
      gap
      within.goesOn
      if ← accept [within.close] then return taken.reverse
      let taken := (← item) :: taken
      gap
      within.goesOn
      if ← accept [','] then items item within taken fuel
      else
        expect [within.close] (.noComma within.members)
        return taken.reverse

/-- Reads what is written between brackets, from the opening one on. -/
def enclosed {α : Type} (item : Reader α) (within : Enclosure) : Reader (List α) := do
  let _ ← next
  loop (items item within [])

def scalarNode : Reader Node := do
  let (span, value) ← spanned scalar
  return .scalar span value

/-- Reads a value in which others can stand up to a depth. -/
def value : (depth : Nat) → Reader Node
  | 0 => do
      match ← peek? with
      | some '[' => refuse .tooDeep
      | some '\x7b' => refuse .tooDeep
      | _ => scalarNode
  | depth + 1 => do
      match ← peek? with
      | some '[' =>
          let (span, nodes) ← spanned (enclosed (value depth) .array)
          return .array span nodes
      | some '\x7b' =>
          let (span, assignments) ←
            spanned (enclosed (assignment gap (value depth)) .inlineTable)
          let table ← (Table.empty span .inline).assignAll assignments
          return .table table
      | _ => scalarNode

/-- The line that begins a table, or one more of several tables. -/
structure Header where
  span : Span
  path : List Key
  key : Key
  several : Bool

/-- Reads a header, which starts with a bracket. -/
def header : Reader Header := do
  let (span, path, key, several) ← spanned do
    let _ ← next
    let several ← accept ['[']
    let (path, key) ← dottedKey
    if several then expect [']', ']'] (.unclosed "array table" "]]")
    else expect [']'] (.unclosed "table" "]")
    return (path, key, several)
  return ⟨span, path, key, several⟩

/-- Reads the lines of a section. `taken` holds the values before, last first. -/
def assignments (taken : List Table.Assignment) : (fuel : Nat) → Reader (List Table.Assignment)
  | 0 => refuse .unfinished
  | fuel + 1 => do
      gap
      match ← peek? with
      | none => return taken.reverse
      | some '[' => return taken.reverse
      | some _ =>
          let a ← assignment blanks (value depthLimit)
          lineEnd
          assignments (a :: taken) fuel

end Reader

/-- Puts the table below a header into a document. A header of its own may be given once,
also to a table that has been implied by headers before; it then counts as the place of
that table. -/
def Table.addSection (document : Table Node) (header : Reader.Header)
    (assignments : List Table.Assignment) : Except Fault (Table Node) :=
  document.update false (fun parent =>
    let fresh := empty (some header.span) .headed
    match header.several, parent.get? header.key.text with
    | false, none =>
        (fresh.assignAll assignments).map fun t => parent.push header.key (.table t)
    | false, some (.table t) =>
        if t.form = .implied then
          (({ t with span := some header.span, form := .headed } : Table Node).assignAll
            assignments).map fun t =>
              (parent.erase header.key.text).push header.key (.table t)
        else header.key.refuse .repeatedKey
    | true, none =>
        (fresh.assignAll assignments).map fun t =>
          parent.push header.key (.tables header.span [t])
    | true, some (.tables span items) =>
        (fresh.assignAll assignments).map fun t =>
          parent.replace header.key.text
            (.tables ⟨span.start, header.span.stop⟩ (items ++ [t]))
    | _, _ => header.key.refuse .repeatedKey) header.path

namespace Document

/-- Reads the sections behind the first one into a document. -/
def sections (document : Table Node) : (fuel : Nat) → Reader (Table Node)
  | 0 => Reader.refuse .unfinished
  | fuel + 1 => do
      match ← Reader.peek? with
      | none => return document
      | some _ =>
          let header ← Reader.header
          Reader.lineEnd
          let assignments ← Reader.loop (Reader.assignments [])
          sections (← document.addSection header assignments) fuel

def document : Reader (Table Node) := do
  let assignments ← Reader.loop (Reader.assignments [])
  let top ← (Table.empty none .headed).assignAll assignments
  Reader.loop (sections top)

/-- The table of a text that is a document, or the fault with which reading it ends. -/
def read (text : String) : Except Fault (Table Node) :=
  (document.run (.start text.toList)).map Prod.fst

end Document

end Emend.Toml
