/-! # Edit distance

The least number of characters to insert, delete or replace to turn one text into
another. Distances from the beginning of one text to every beginning of the other are
computed row by row.
-/

namespace Emend.Text

/-- The rest of the next row of distances: `left` is the distance computed last, and
`diagonal` the one above it. -/
def nextDistances (c : Char) (left diagonal : Nat) : (text : List Char) → (row : List Nat) → List Nat
  | d :: text, above :: row =>
      let kept := if c = d then diagonal else diagonal + 1
      let here := min kept (min left above + 1)
      here :: nextDistances c here above text row
  | _, _ => []

/-- The next row of distances, for one more character of the first text. -/
def nextRow (text : List Char) (row : List Nat) (c : Char) : List Nat :=
  match row with
  | [] => []
  | first :: rest => (first + 1) :: nextDistances c (first + 1) first text rest

def editDistance (a b : List Char) : Nat :=
  (a.foldl (nextRow b) (List.range (b.length + 1))).getLastD 0

end Emend.Text
