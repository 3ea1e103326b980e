import Emend.Toml.Scalar

/-! # Tables

The values of a document. A table can be filled in several places of a document, and how
it was begun says where else it may be extended: `Table.update` follows a path of keys
under these rules, and `Table.assign` adds a value at the end of one.
-/

namespace Emend.Toml

structure Key where
  span : Span
  text : String
  deriving Repr

def Key.refuse {α : Type} (key : Key) (kind : FaultKind) : Except Fault α := .error ⟨key.span, kind⟩

/-- How a table was begun. -/
inductive TableForm where
  /-- By the header of a table inside it. -/
  | implied
  /-- By a dotted key of a value inside it. -/
  | dotted
  /-- By a header of its own, or as the document. -/
  | headed
  /-- By braces, which close it at once. -/
  | inline
  deriving Repr, DecidableEq

/-- Keys with their values, in the order of the document. Tables begun by what is inside
them have no span. -/
structure Table (α : Type) where
  span : Option Span
  form : TableForm
  entries : List (Key × α)
  deriving Repr

inductive Node where
  | scalar (span : Span) (value : Scalar)
  | array (span : Span) (items : List Node)
  | table (table : Table Node)
  /-- Tables with the same header, from its first to its last place. -/
  | tables (span : Span) (items : List (Table Node))
  deriving Repr

def Node.span? : Node → Option Span
  | .scalar span _ => some span
  | .array span _ => some span
  | .table t => t.span
  | .tables span _ => some span

def Node.typeName : Node → String
  | .scalar _ value => value.typeName
  | .array .. => "array"
  | .table t => if t.form = .inline then "inline table" else "table"
  | .tables .. => "array of tables"

namespace Table

def empty (span : Option Span) (form : TableForm) : Table Node := ⟨span, form, []⟩

def get? (t : Table Node) (key : String) : Option Node :=
  (t.entries.find? fun entry => entry.1.text == key).map Prod.snd

def isBegunWithin (t : Table Node) : Bool := t.form == .implied || t.form == .dotted

def push (t : Table Node) (key : Key) (node : Node) : Table Node :=
  { t with entries := t.entries ++ [(key, node)] }

def erase (t : Table Node) (key : String) : Table Node :=
  { t with entries := t.entries.filter fun entry => entry.1.text != key }

def replace (t : Table Node) (key : String) (node : Node) : Table Node :=
  { t with
    entries := t.entries.map fun entry =>
      if entry.1.text == key then (entry.1, node) else entry }

def changeLast (f : Table Node → Except Fault (Table Node)) :
    List (Table Node) → Except Fault (List (Table Node))
  | [] => .ok []
  | [t] => (f t).map fun t => [t]
  | t :: rest => (changeLast f rest).map (t :: ·)

/-- Changes the table at the end of a path, beginning the tables that are missing on the
way. Behind a header with several tables the path goes on in the last of them. A dotted
path stops at a table that has a header of its own, and every path at a value. -/
def update (dotted : Bool) (f : Table Node → Except Fault (Table Node)) :
    (path : List Key) → Table Node → Except Fault (Table Node)
  | [], t => f t
  | key :: path, t =>
      match t.get? key.text with
      | none =>
          let form := if dotted then .dotted else .implied
          (update dotted f path (empty none form)).map fun child => t.push key (.table child)
      | some (.tables span items) =>
          (changeLast (update dotted f path) items).map fun items =>
            t.replace key.text (.tables span items)
      | some (.table child) =>
          if child.form = .inline then key.refuse (.closedValue (Node.table child).typeName)
          else if dotted && !child.isBegunWithin then key.refuse .repeatedKey
          else (update dotted f path child).map fun child => t.replace key.text (.table child)
      | some value => key.refuse (.closedValue value.typeName)

/-- A value with the keys that lead to it: all but the last, and the last. -/
structure Assignment where
  path : List Key
  key : Key
  value : Node

/-- Adds a value. A table begun by dotted keys takes only values with dotted keys, and no
other table takes them directly. -/
def assign (t : Table Node) (a : Assignment) : Except Fault (Table Node) :=
  let dotted := !a.path.isEmpty
  t.update dotted (fun parent =>
    if (parent.form == .dotted) != dotted || (parent.get? a.key.text).isSome then
      a.key.refuse .repeatedKey
    else .ok (parent.push a.key a.value)) a.path

def assignAll (t : Table Node) (as : List Assignment) : Except Fault (Table Node) :=
  as.foldlM assign t

end Table

end Emend.Toml
