/-! # Edit scripts

A script turns one list of lines into another by keeping, deleting and inserting runs of
lines. Every edit also remembers where it was found in the two lists.
-/

namespace Emend.Diff

inductive EditKind where
  /-- The lines are in both lists. -/
  | keep
  /-- The lines are only in the first list. -/
  | delete
  /-- The lines are only in the second list. -/
  | insert
  deriving Repr, DecidableEq

/-- A run of lines that are treated alike. -/
structure Edit (α : Type) where
  kind : EditKind
  lines : List α
  /-- The place in the first list, counted from zero. -/
  old : Nat
  /-- The place in the second list, counted from zero. -/
  new : Nat
  deriving Repr, DecidableEq

namespace Edit

variable {α : Type}

/-- The lines that an edit takes from the first list. -/
def oldLines (e : Edit α) : List α :=
  match e.kind with
  | .insert => []
  | _ => e.lines

/-- The lines that an edit gives to the second list. -/
def newLines (e : Edit α) : List α :=
  match e.kind with
  | .delete => []
  | _ => e.lines

def oldStop (e : Edit α) : Nat := e.old + e.oldLines.length

def newStop (e : Edit α) : Nat := e.new + e.newLines.length

end Edit

/-- The list that a script starts from. -/
def oldSide {α : Type} (script : List (Edit α)) : List α := script.flatMap Edit.oldLines

/-- The list that a script leads to. -/
def newSide {α : Type} (script : List (Edit α)) : List α := script.flatMap Edit.newLines

variable {α : Type} [DecidableEq α]

def commonPrefix : List α → List α → List α
  | a :: as, b :: bs => if a = b then a :: commonPrefix as bs else []
  | _, _ => []

def commonSuffix (as bs : List α) : List α :=
  (commonPrefix as.reverse bs.reverse).reverse

end Emend.Diff
