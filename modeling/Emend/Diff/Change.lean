import Emend.Diff.Compaction
import Emend.Text.Line

/-! # Changes between two texts

The difference of two texts in the form in which it is shown: lines that are kept, and
changes, which take away lines and put others in their place.
-/

namespace Emend.Diff

/-- A part of the difference of two texts. -/
inductive Change where
  /-- Lines that both texts have. -/
  | same (lines : List (List Char)) (old new : Nat)
  /-- Lines of the first text with the lines that the second has in their place. -/
  | change (removed added : List (List Char)) (old new : Nat)
  deriving Repr, DecidableEq

namespace Change

def oldLines : Change → List (List Char)
  | .same lines _ _ => lines
  | .change removed _ _ _ => removed

def newLines : Change → List (List Char)
  | .same lines _ _ => lines
  | .change _ added _ _ => added

/-- The place in the first text, counted from zero. -/
def old : Change → Nat
  | .same _ old _ => old
  | .change _ _ old _ => old

/-- The place in the second text, counted from zero. -/
def new : Change → Nat
  | .same _ _ new => new
  | .change _ _ _ new => new

end Change

/-- Adds an edit in front of a difference. Deletions and insertions without kept lines
between them are one change, found where its first deletion and its first insertion are. -/
def addEdit (e : Edit (List Char)) (rest : List Change) : List Change :=
  match e.kind, rest with
  | .keep, .same lines _ _ :: rest => .same (e.lines ++ lines) e.old e.new :: rest
  | .keep, rest => .same e.lines e.old e.new :: rest
  | .delete, .change removed added _ new :: rest =>
      .change (e.lines ++ removed) added e.old (if added.isEmpty then e.new else new) :: rest
  | .delete, rest => .change e.lines [] e.old e.new :: rest
  | .insert, .change removed added old _ :: rest =>
      .change removed (e.lines ++ added) (if removed.isEmpty then e.old else old) e.new :: rest
  | .insert, rest => .change [] e.lines e.old e.new :: rest

def changes (edits : List (Edit (List Char))) : List Change :=
  edits.foldr addEdit []

/-- The difference of two texts by lines. -/
def between (old new : String) : List Change :=
  changes (compact (script (Text.endedLines old.toList) (Text.endedLines new.toList)))

/-- What is shown of a line: that both texts have it, or only one of them. -/
inductive LineMark where
  | same | removed | added
  deriving Repr, DecidableEq

def LineMark.sign : LineMark → Char
  | .same => ' '
  | .removed => '-'
  | .added => '+'

/-- The marked lines of a part of a difference: lines that go before lines that come. -/
def Change.marked : Change → List (LineMark × List Char)
  | .same lines _ _ => lines.map (LineMark.same, ·)
  | .change removed added _ _ =>
      removed.map (LineMark.removed, ·) ++ added.map (LineMark.added, ·)

/-- Whether a line has no end, as only the last one of a text can be. -/
def isUnended (line : List Char) : Bool :=
  line.getLast? != some '\n' && line.getLast? != some '\r'

end Emend.Diff
