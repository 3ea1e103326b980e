import Std.Data.HashMap
import Emend.Regex.Footprint.Basic
import Emend.Unicode.ByteRange

/-! # The footprint of a set of characters

A set of ASCII characters is one state with a range for each of its own. Any other set is
read byte by byte. States that would do the same are made once, as far as they are
remembered: a table has room for one state in each of its slots.
-/

namespace Emend.Regex

open Unicode (CharSet ByteRange ByteSequences)

/-- The states that are remembered while a set is compiled. A state is known by its key,
the numbers that say what it reads and where it leads. -/
structure Known where
  /-- How many slots there are. -/
  slots : Nat
  /-- The key and the number of the state in a slot. -/
  entries : Std.HashMap Nat (List Nat × Nat)

namespace Known

def empty (slots : Nat) : Known := ⟨slots, ∅⟩

/-- The slot of a key: its FNV-1a hash with numbers in the place of bytes. -/
def slot (known : Known) (key : List Nat) : Nat :=
  let hash := key.foldl (fun h n => (h ^^^ UInt64.ofNat n) * 1099511628211)
    (14695981039346656037 : UInt64)
  hash.toNat % known.slots

def find? (known : Known) (key : List Nat) : Option Nat :=
  match known.entries[known.slot key]? with
  | some (other, number) => if other = key then some number else none
  | none => none

/-- Remembers a state, and forgets the one in its slot. -/
def insert (known : Known) (key : List Nat) (number : Nat) : Known :=
  { known with entries := known.entries.insert (known.slot key) (key, number) }

end Known

namespace Footprint

/-- The number of the state with a key. The state is made unless it is remembered. -/
def state (key : List Nat) (extra : Nat) : StateM (Footprint × Known) Nat :=
  fun (f, known) =>
    match known.find? key with
    | some number => (number, f, known)
    | none => (f.states, f.add 1 extra, known.insert key f.states)

/-- Sequences by their first ranges, each with what follows it. Only neighbours are put
together. -/
def byFirst : ByteSequences → List (ByteRange × ByteSequences)
  | [] => []
  | [] :: rest => byFirst rest
  | (range :: tail) :: rest =>
      match byFirst rest with
      | (other, tails) :: groups =>
          if other = range then (range, tail :: tails) :: groups
          else (range, [tail]) :: (other, tails) :: groups
      | [] => [(range, [tail])]

/-- The number of the state that reads any of the sequences and leads to a target. The
states behind it are made before it. `depth` bounds the lengths of the sequences. -/
def reader (target : Nat) : (depth : Nat) → ByteSequences → StateM (Footprint × Known) Nat
  | 0, _ => return target
  | depth + 1, sequences => do
      if sequences.all List.isEmpty then return target
      let links ← (byFirst sequences).mapM fun (range, tails) => do
        return [range.low, range.high, ← reader target depth tails]
      state links.flatten (rangeSize * links.length)

/-- The number of the state from which a sequence is read from its end on, up to a target.
Each state reads one byte. -/
def backwardReader (target : Nat) (sequence : List ByteRange) :
    StateM (Footprint × Known) Nat :=
  sequence.foldlM (fun next range => state [next, range.low, range.high] 0) target

def addSet (f : Footprint) (d : Direction) (set : CharSet) : Footprint :=
  if set.isAscii then f.add 2 (rangeSize * set.ranges.length)
  else
    let sequences := set.byteSequences
    match d with
    | .forward =>
        let target := f.states
        ((reader target 4 sequences).run (f.add 1 0, .empty 10000)).2.1
    | .backward =>
        let target := f.states + 1
        let made := (sequences.forM fun s => discard (backwardReader target s)).run
          (f.add 2 0, .empty 1000)
        made.2.1.add 0 (linkSize * sequences.length)

end Footprint

end Emend.Regex
