import Emend.Binary64

/-! # Scores

How alike two texts are is a number from zero to one. The arithmetic on scores is a
parameter of everything that computes with them: it can be done in binary fractions, as
reports show them, or exactly.
-/

namespace Emend

/-- The arithmetic of scores. -/
class Score (α : Type) where
  /-- The quotient of two counts. -/
  ratio : Nat → Nat → α
  /-- What is missing to one. -/
  fromOne : α → α
  /-- The sum of two scores. -/
  add : α → α → α
  /-- The share of a score for each of several. -/
  share : α → Nat → α
  /-- Whether a score is at most another. -/
  atMost : α → α → Bool

instance : Score Binary64 where
  ratio := .ofRatio
  fromOne := .fromOne
  add := .add
  share := .divNat
  atMost x y := x.bits ≤ y.bits

end Emend
