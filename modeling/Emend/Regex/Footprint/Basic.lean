/-! # Footprints

A pattern is refused if an automaton for it over the bytes of a text takes too much room.
The automaton reads texts in one direction, and a pattern needs one for each. It is not
built: only its states are counted, in the order in which they would be made.
-/

namespace Emend.Regex

/-- How an automaton reads a text. -/
inductive Direction where
  | forward
  | backward
  deriving Repr, DecidableEq

/-- The room that an automaton takes. -/
structure Footprint where
  /-- How many states there are. They are numbered in the order in which they are made. -/
  states : Nat
  /-- The bytes that states take for what does not fit into them. -/
  extra : Nat
  deriving Repr, DecidableEq

namespace Footprint

def stateSize : Nat := 32

/-- The bytes for one range of bytes of a state that has several. -/
def rangeSize : Nat := 8

/-- The bytes for one way to go on of a state that has several. -/
def linkSize : Nat := 4

def bytes (f : Footprint) : Nat := stateSize * f.states + f.extra

def add (f : Footprint) (states extra : Nat) : Footprint :=
  ⟨f.states + states, f.extra + extra⟩

/-- Grows `n` times, but no more once the limit is exceeded. -/
def rounds (limit : Nat) (grow : Footprint → Footprint) : (n : Nat) → Footprint → Footprint
  | 0, f => f
  | n + 1, f => if limit < f.bytes then f else rounds limit grow n (grow f)

/-- Grows `n` times by as much as the first time. -/
def scaled (grow : Footprint → Footprint) (n : Nat) (f : Footprint) : Footprint :=
  let once := grow f
  f.add (n * (once.states - f.states)) (n * (once.extra - f.extra))

end Footprint

end Emend.Regex
