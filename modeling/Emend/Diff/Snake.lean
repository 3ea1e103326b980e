import Emend.Diff.Edit

/-! # Middle snakes

The search for a shortest edit script walks a grid: a step to the right deletes a line of
the first list, a step down inserts a line of the second, and a diagonal step keeps a
line. It proceeds from both corners at once, one edit after the other, and on every
diagonal holds the furthest place reached. Where the two searches meet, the grid is cut.
-/

namespace Emend.Diff

/-- The furthest places reached on every diagonal, counted from the corner that the
search starts at. Both keep what earlier searches left in them. -/
structure Frontiers where
  forward : Array Nat
  backward : Array Nat
  /-- The index of the main diagonal. -/
  center : Nat
  deriving Repr

namespace Frontiers

/-- The number of edits that a search never needs to exceed. -/
def maxEdits (n m : Nat) : Nat := (n + m + 1) / 2 + 1

/-- Frontiers for searches in lists of given lengths, or in parts of them. -/
def ofLengths (n m : Nat) : Frontiers :=
  let size := maxEdits n m
  ⟨.replicate (2 * size) 0, .replicate (2 * size) 0, size⟩

end Frontiers

def onDiagonal (places : Array Nat) (center : Nat) (k : Int) : Nat :=
  places.getD (k + center).toNat 0

def setDiagonal (places : Array Nat) (center : Nat) (k : Int) (x : Nat) : Array Nat :=
  places.setIfInBounds (k + center).toNat x

/-- The place on a diagonal after one more edit, before any line is kept. -/
def nextPlace (places : Array Nat) (center : Nat) (d : Nat) (k : Int) : Nat :=
  let right := onDiagonal places center (k - 1)
  let down := onDiagonal places center (k + 1)
  if k = -(d : Int) || (k != (d : Int) && right < down) then down else right + 1

/-- The diagonals reached by `d` edits, from the rightmost on. -/
def diagonals (d : Nat) : List Int :=
  (List.range (d + 1)).map fun (i : Nat) => (d : Int) - 2 * i

variable {α : Type} [DecidableEq α]

/-- The number of lines that two lists have in common from given indices on. -/
def sameAhead (old new : Array α) : (fuel x y : Nat) → Nat
  | 0, _, _ => 0
  | fuel + 1, x, y =>
      match old[x]?, new[y]? with
      | some a, some b => if a = b then sameAhead old new fuel (x + 1) (y + 1) + 1 else 0
      | _, _ => 0

/-- The place reached by keeping lines from (`x`, `y`) on. A place above the grid has no
lines to keep. -/
def slide (old new : Array α) (x : Nat) (y : Int) : Nat :=
  match y with
  | .ofNat y => x + sameAhead old new old.size x y
  | .negSucc _ => x

/-- One round of the search from the start. If it meets the other search, the result is
the place where the last snake begins. -/
def forwardRound (old new : Array α) (d : Nat) (front : Frontiers) :
    List Int → Frontiers × Option (Nat × Nat)
  | [] => (front, none)
  | k :: ks =>
      let delta : Int := old.size - new.size
      let start := nextPlace front.forward front.center d k
      let x := slide old new start (start - k)
      let front := { front with forward := setDiagonal front.forward front.center k x }
      if delta % 2 != 0 && (k - delta).natAbs + 1 ≤ d
          && old.size ≤ x + onDiagonal front.backward front.center (delta - k) then
        (front, some (start, (start - k).toNat))
      else forwardRound old new d front ks

/-- One round of the search from the end, in reversed lists. If it meets the other
search, the result is the place where the last snake begins. -/
def backwardRound (oldBack newBack : Array α) (d : Nat) (front : Frontiers) :
    List Int → Frontiers × Option (Nat × Nat)
  | [] => (front, none)
  | k :: ks =>
      let delta : Int := oldBack.size - newBack.size
      let start := nextPlace front.backward front.center d k
      let x := slide oldBack newBack start (start - k)
      let front := { front with backward := setDiagonal front.backward front.center k x }
      if delta % 2 == 0 && (k - delta).natAbs ≤ d
          && oldBack.size ≤ x + onDiagonal front.forward front.center (delta - k) then
        (front, some (oldBack.size - x, newBack.size - (x - k).toNat))
      else backwardRound oldBack newBack d front ks

def rounds (old new oldBack newBack : Array α) (front : Frontiers) :
    (fuel d : Nat) → Frontiers × Option (Nat × Nat)
  | 0, _ => (front, none)
  | fuel + 1, d =>
      match forwardRound old new d front (diagonals d) with
      | (front, some cut) => (front, some cut)
      | (front, none) =>
          match backwardRound oldBack newBack d front (diagonals d) with
          | (front, some cut) => (front, some cut)
          | (front, none) => rounds old new oldBack newBack front fuel (d + 1)

/-- The place at which to cut two lists that begin and end differently. -/
def middle? (front : Frontiers) (old new : List α) : Frontiers × Option (Nat × Nat) :=
  let front := { front with
    forward := setDiagonal front.forward front.center 1 0
    backward := setDiagonal front.backward front.center 1 0 }
  rounds old.toArray new.toArray old.reverse.toArray new.reverse.toArray front
    (Frontiers.maxEdits old.length new.length) 0

end Emend.Diff
