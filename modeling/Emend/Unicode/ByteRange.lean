import Emend.Unicode.CharSet

/-! # The bytes of a set of characters

In UTF-8 a character is a first byte followed by up to three bytes that hold six bits
each. The characters of a range are therefore the members of a few sequences of byte
ranges, and `CharSet.byteSequences` lists those of a set in increasing order.
-/

namespace Emend.Unicode

/-- The bytes from `low` to `high`, both included. -/
structure ByteRange where
  low : Nat
  high : Nat
  deriving Repr, DecidableEq

/-- Sequences of ranges, one range for each byte. -/
abbrev ByteSequences := List (List ByteRange)

namespace ByteRange

/-- The bytes that follow a first byte. -/
def continuation : ByteRange := ⟨0x80, 0xBF⟩

/-- The sequences for the numbers from `low` to `high`. Every byte holds a digit: the
first one is added to `mark`, the others to the mark of a continuation. `units` holds what
each digit but the last is worth. -/
def sequences (mark : Nat) : (units : List Nat) → (low high : Nat) → ByteSequences
  | [], low, high => [[⟨mark + low, mark + high⟩]]
  | unit :: units, low, high =>
      let first := low / unit
      let last := high / unit
      let below (digit low high : Nat) : ByteSequences :=
        (sequences continuation.low units low high).map
          (⟨mark + digit, mark + digit⟩ :: ·)
      if first = last then below first (low % unit) (high % unit)
      else
        let whole := if low % unit = 0 then first else first + 1
        let stop := if high % unit = unit - 1 then last + 1 else last
        (if first < whole then below first (low % unit) (unit - 1) else [])
          ++ (if whole < stop then
                [⟨mark + whole, mark + stop - 1⟩ ::
                  List.replicate (units.length + 1) continuation]
              else [])
          ++ (if stop ≤ last then below last 0 (high % unit) else [])

end ByteRange

/-- Characters whose bytes are written alike. -/
structure Encoding where
  low : Nat
  high : Nat
  /-- What the first byte adds to its digit. -/
  mark : Nat
  /-- What each digit but the last is worth. -/
  units : List Nat

/-- All characters, by the number of their bytes. No character is a surrogate. -/
def Encoding.all : List Encoding :=
  [⟨0, 0x7F, 0, []⟩,
   ⟨0x80, 0x7FF, 0xC0, [64]⟩,
   ⟨0x800, 0xD7FF, 0xE0, [4096, 64]⟩,
   ⟨0xE000, 0xFFFF, 0xE0, [4096, 64]⟩,
   ⟨0x10000, 0x10FFFF, 0xF0, [262144, 4096, 64]⟩]

def ByteRange.ofChars (low high : Nat) : ByteSequences :=
  Encoding.all.flatMap fun e =>
    let low := max low e.low
    let high := min high e.high
    if low ≤ high then sequences e.mark e.units low high else []

def CharSet.byteSequences (set : CharSet) : ByteSequences :=
  set.ranges.flatMap fun (low, high) => ByteRange.ofChars low high

end Emend.Unicode
