/-! # Sets of characters

A set is a list of code point ranges, both ends included. Every set built here has
its ranges in increasing order with gaps between them, so that equal sets are equal
lists of ranges.
-/

namespace Emend.Unicode

/-- A set of characters as code point ranges, both ends included. -/
structure CharSet where
  ranges : List (Nat × Nat)
  deriving Repr, DecidableEq, Inhabited

namespace CharSet

def empty : CharSet := ⟨[]⟩

def contains (set : CharSet) (c : Char) : Bool :=
  set.ranges.any fun (low, high) => low ≤ c.toNat && c.toNat ≤ high

/-- Joins ranges that touch or overlap; the list has to be sorted by its lower ends. -/
def coalesce : List (Nat × Nat) → List (Nat × Nat)
  | [] => []
  | [range] => [range]
  | (low, high) :: (low', high') :: rest =>
      if low' ≤ high + 1 then coalesce ((low, max high high') :: rest)
      else (low, high) :: coalesce ((low', high') :: rest)
termination_by ranges => ranges.length

def ofRanges (ranges : List (Nat × Nat)) : CharSet :=
  ⟨coalesce (ranges.mergeSort fun a b => a.1 ≤ b.1)⟩

def singleton (c : Char) : CharSet := ⟨[(c.toNat, c.toNat)]⟩

def between (first last : Char) : CharSet := ofRanges [(first.toNat, last.toNat)]

def union (a b : CharSet) : CharSet :=
  ofRanges (a.ranges ++ b.ranges)

/-- The ranges of scalar values that a sorted list of ranges leaves out, from a code point on. -/
def gaps (start : Nat) : List (Nat × Nat) → List (Nat × Nat)
  | [] => if start ≤ 0x10FFFF then [(start, 0x10FFFF)] else []
  | (low, high) :: rest =>
      if start < low then (start, low - 1) :: gaps (high + 1) rest else gaps (high + 1) rest

/-- All characters that are no members. Surrogates are not characters and are never members. -/
def complement (set : CharSet) : CharSet :=
  ⟨gaps 0 (ofRanges ((0xD800, 0xDFFF) :: set.ranges)).ranges⟩

def inter (a b : CharSet) : CharSet :=
  (a.complement.union b.complement).complement

def diff (a b : CharSet) : CharSet :=
  a.inter b.complement

def symmDiff (a b : CharSet) : CharSet :=
  (a.union b).diff (a.inter b)

def isAscii (set : CharSet) : Bool :=
  set.ranges.all fun (_, high) => high < 128

/-- The only member of a set that has exactly one. -/
def onlyMember? (set : CharSet) : Option Char :=
  match set.ranges with
  | [(low, high)] => if low = high then some (Char.ofNat low) else none
  | _ => none

def hexDigit (c : Char) : Nat :=
  if c ≤ '9' then c.toNat - '0'.toNat else c.toNat - 'a'.toNat + 10

/-- Reads ranges written in hexadecimal, such as `41-5a 5f`: `low` is the lower end
read so far if a dash has been passed, `value` the digits since then. -/
def readRanges (low : Option Nat) (value : Nat) : List Char → List (Nat × Nat)
  | [] => [(low.getD value, value)]
  | ' ' :: rest => (low.getD value, value) :: readRanges none 0 rest
  | '-' :: rest => readRanges (some value) 0 rest
  | c :: rest => readRanges low (16 * value + hexDigit c) rest

/-- The set written as sorted hexadecimal ranges with blanks between them, in lines. -/
def ofHex (lines : List String) : CharSet :=
  ⟨lines.flatMap fun line => readRanges none 0 line.toList⟩

end CharSet

end Emend.Unicode
