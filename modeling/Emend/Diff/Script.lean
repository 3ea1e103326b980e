import Emend.Diff.Snake

/-! # Finding edit scripts

Lines that two lists begin or end with are kept. What is between is cut in the middle of
a shortest script, and the two halves are treated in the same way.
-/

namespace Emend.Diff

variable {α : Type} [DecidableEq α]

/-- An edit of some lines, or no edit of no lines. -/
def run (kind : EditKind) (lines : List α) (old new : Nat) : List (Edit α) :=
  if lines.isEmpty then [] else [⟨kind, lines, old, new⟩]

/-- A script from one list to another, which begin at given places. `fuel` bounds how
often the lists are cut. -/
def conquer (front : Frontiers) : (fuel : Nat) → (oldAt newAt : Nat) → (old new : List α) →
    Frontiers × List (Edit α)
  | 0, oldAt, newAt, old, new =>
      (front, run .delete old oldAt newAt ++ run .insert new oldAt newAt)
  | fuel + 1, oldAt, newAt, old, new =>
      let head := commonPrefix old new
      let n := head.length
      let tail := commonSuffix (old.drop n) (new.drop n)
      let oldMid := (old.drop n).take (old.length - n - tail.length)
      let newMid := (new.drop n).take (new.length - n - tail.length)
      let x := oldAt + n
      let y := newAt + n
      let (front, inner) :=
        if oldMid.isEmpty || newMid.isEmpty then
          (front, run .delete oldMid x y ++ run .insert newMid x y)
        else
          match middle? front oldMid newMid with
          | (front, none) => (front, run .delete oldMid x y ++ run .insert newMid x y)
          | (front, some (i, j)) =>
              let (front, first) := conquer front fuel x y (oldMid.take i) (newMid.take j)
              let (front, second) :=
                conquer front fuel (x + i) (y + j) (oldMid.drop i) (newMid.drop j)
              (front, first ++ second)
      (front, run .keep head oldAt newAt ++ inner
        ++ run .keep tail (x + oldMid.length) (y + newMid.length))

def script (old new : List α) : List (Edit α) :=
  (conquer (.ofLengths old.length new.length) (old.length + new.length + 1) 0 0 old new).2

end Emend.Diff
