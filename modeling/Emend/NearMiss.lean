import Emend.Score
import Emend.Text.EditDistance
import Emend.Text.Line

/-! # Near misses

When an exact text is absent, the buffer often has nearly that text. The run of lines
that is most like it is found by the mean of the scores of its lines, and is pointed out
if the mean is high enough.
-/

namespace Emend

/-- The part of a buffer that is most like a text that it does not have. -/
structure NearMiss (α : Type) where
  /-- The number of its first line, counted from one. -/
  line : Nat
  /-- The mean score of its lines. -/
  similarity : α
  /-- The number of its first line that differs, counted from one. -/
  divergentLine : Nat
  /-- That line as the buffer has it. -/
  found : String
  /-- That line as it was expected. -/
  expected : String
  deriving Repr, DecidableEq

namespace NearMiss

variable {α : Type} [Score α]

/-- How alike two texts are: the share of the longer one that need not be edited. -/
def textScore (a b : List Char) : α :=
  if a.isEmpty && b.isEmpty then Score.ratio 1 1
  else Score.fromOne (Score.ratio (Text.editDistance a b) (max a.length b.length))

/-- How alike two lines are, but for white space at their ends. -/
def lineScore (found expected : List Char) : α :=
  if found = expected then Score.ratio 1 1
  else textScore (Text.trim found) (Text.trim expected)

/-- The sum of the scores of lines, added to `total` from the first on. -/
def sumScores (total : α) : (found expected : List (List Char)) → α
  | f :: found, e :: expected => sumScores (Score.add total (lineScore f e)) found expected
  | _, _ => total

def windowScore (window expected : List (List Char)) : α :=
  Score.share (sumScores (Score.ratio 0 1) window expected) expected.length

/-- All runs of `size` consecutive lines. -/
def windows (size : Nat) : (lines : List (List Char)) → List (List (List Char))
  | [] => []
  | line :: rest =>
      if size ≤ rest.length + 1 then (line :: rest).take size :: windows size rest else []

/-- The first of the best scores with its place, counted from `place`; `best` is the best
one before. -/
def firstBest (best : Option (Nat × α)) (place : Nat) : (scores : List α) → Option (Nat × α)
  | [] => best
  | score :: rest =>
      let better := match best with
        | some (_, top) => !Score.atMost score top
        | none => true
      firstBest (if better then some (place, score) else best) (place + 1) rest

/-- The place of the first pair of lines that differ, if any do. -/
def divergence? : (found expected : List (List Char)) → Option Nat
  | f :: found, e :: expected =>
      if f = e then (divergence? found expected).map (· + 1) else some 0
  | _, _ => none

/-- The near miss of an expected text in a buffer, if its score is at least `minimum`. -/
def find? (minimum : α) (buffer expected : String) : Option (NearMiss α) := do
  let wanted := Text.lines expected.toList
  let lines := Text.lines buffer.toList
  if wanted.isEmpty then none
  else
    let candidates := windows wanted.length lines
    let (start, score) ← firstBest none 0 (candidates.map (windowScore · wanted))
    if !Score.atMost minimum score then none
    else
      let window ← candidates[start]?
      let offset := (divergence? window wanted).getD 0
      let found ← window[offset]?
      let line ← wanted[offset]?
      return {
        line := start + 1
        similarity := score
        divergentLine := start + offset + 1
        found := String.ofList found
        expected := String.ofList line }

/-- The least score of a near miss that is pointed out. -/
def leastScore : α := Score.ratio 4 5

end NearMiss

end Emend
