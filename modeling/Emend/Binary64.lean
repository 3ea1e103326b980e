/-! # Binary fractions of 64 bits

Non-negative numbers of the 64-bit binary format, held by their bits. Every finite one is
a whole number of units of 2 to the power of -1074, and an operation takes the exact
result in those units and rounds it once, to the nearest number and a tie to even bits.
Between numbers the order of the bits is the order of the values.
-/

namespace Emend

/-- A non-negative number of the 64-bit binary format. -/
structure Binary64 where
  bits : Nat
  deriving Repr, DecidableEq, Inhabited

namespace Binary64

/-- How many units make one. -/
def unitsOfOne : Nat := 1 <<< 1074

/-- How many fractions there are for each exponent: two to the power of 52. -/
def fractionCount : Nat := 0x10000000000000

def infinityBits : Nat := 0x7FF0000000000000

/-- The value in units. -/
def units (x : Binary64) : Nat :=
  let exponent := x.bits / fractionCount
  let fraction := x.bits % fractionCount
  if exponent = 0 then fraction else (fractionCount + fraction) <<< (exponent - 1)

/-- A quotient rounded to the nearest whole number, a tie to the even one. -/
def roundDiv (num den : Nat) : Nat :=
  let q := num / den
  let twice := 2 * (num % den)
  if twice < den then q
  else if den < twice then q + 1
  else q + q % 2

/-- The number nearest to a quotient of units. Numbers too large become infinite. -/
def ofUnits (num den : Nat) : Binary64 :=
  let shift := Nat.log2 (num / den) + 1 - 53
  let bits := shift * fractionCount + roundDiv num (den <<< shift)
  ⟨Nat.min bits infinityBits⟩

def ofRatio (num den : Nat) : Binary64 :=
  ofUnits (num * unitsOfOne) den

def add (x y : Binary64) : Binary64 :=
  ofUnits (x.units + y.units) 1

/-- One less a number, which is at most one. -/
def fromOne (x : Binary64) : Binary64 :=
  ofUnits (unitsOfOne - x.units) 1

def divNat (x : Binary64) (n : Nat) : Binary64 :=
  ofUnits x.units n

def mulNat (x : Binary64) (n : Nat) : Binary64 :=
  ofUnits (x.units * n) 1

/-- The nearest whole number, a tie to the even one. -/
def round (x : Binary64) : Nat :=
  roundDiv x.units unitsOfOne

/-- A decimal number: digits times a power of ten. -/
structure Decimal where
  digits : Nat
  exponent : Int
  deriving Repr, DecidableEq

def digitCount (n : Nat) : Nat := (Nat.toDigits 10 n).length

/-- The number nearest to a decimal number. Powers of ten that lie far outside the format
are not computed. -/
def ofDecimal (d : Decimal) : Binary64 :=
  let size := d.exponent + digitCount d.digits
  if d.digits = 0 || size < -400 then ⟨0⟩
  else if 400 < size then ⟨infinityBits⟩
  else match d.exponent with
    | .ofNat e => ofRatio (d.digits * Nat.pow 10 e) 1
    | .negSucc e => ofRatio d.digits (Nat.pow 10 (e + 1))

/-- The exponent of ten of the first decimal digit of a number other than zero. -/
def leadingExponent (x : Binary64) : Int :=
  if unitsOfOne ≤ x.units then digitCount (x.units / unitsOfOne) - 1
  else - (digitCount (unitsOfOne / x.units) : Int)

/-- Which of two decimal numbers stands for a number that lies in the middle of them. -/
inductive Tie where
  /-- The one whose digits are an even number. -/
  | toEven
  /-- The larger one. -/
  | upward
  deriving Repr, DecidableEq

/-- The decimal numbers with a given exponent next to a number: the one at most as large,
and whether the next larger one is nearer or wins the tie. -/
def neighbour (x : Binary64) (tie : Tie) (exponent : Int) : Nat × Bool :=
  let (num, den) := match exponent with
    | .ofNat e => (x.units, unitsOfOne * Nat.pow 10 e)
    | .negSucc e => (x.units * Nat.pow 10 (e + 1), unitsOfOne)
  let low := num / den
  let twice := 2 * (num % den)
  let larger := match tie with
    | .toEven => low % 2 == 1
    | .upward => true
  (low, den < twice || (den == twice && larger))

/-- The shortest decimal number that is read back as a given one, found by trying one
more digit at a time from `exponent` on. -/
def shortestFrom (x : Binary64) (tie : Tie) : (fuel : Nat) → (exponent : Int) → Decimal
  | 0, exponent => ⟨(x.neighbour tie exponent).1, exponent⟩
  | fuel + 1, exponent =>
      let (low, upper) := x.neighbour tie exponent
      let (first, second) := if upper then (low + 1, low) else (low, low + 1)
      if ofDecimal ⟨first, exponent⟩ = x then ⟨first, exponent⟩
      else if ofDecimal ⟨second, exponent⟩ = x then ⟨second, exponent⟩
      else shortestFrom x tie fuel (exponent - 1)

/-- The shortest decimal number that is read back as a given one. The first one tried
is the power of ten above it, so that no digits end in a zero. -/
def shortest (x : Binary64) (tie : Tie) : Decimal :=
  if x.bits = 0 then ⟨0, 0⟩ else x.shortestFrom tie 18 (x.leadingExponent + 1)

/-- A decimal number written with a point and without an exponent, and with at least one
digit on both sides of the point. -/
def Decimal.positional (d : Decimal) : String :=
  let digits := Nat.toDigits 10 d.digits
  match d.exponent with
  | .ofNat e => String.ofList (digits ++ List.replicate e '0' ++ ['.', '0'])
  | .negSucc e =>
      let padded := List.replicate (e + 2 - digits.length) '0' ++ digits
      let whole := padded.length - (e + 1)
      String.ofList (padded.take whole ++ '.' :: padded.drop whole)

end Binary64

end Emend
