import Emend.Binary64
import Emend.Text.Occurrence
import Emend.Toml.Quoted

/-! # Scalars

Values without parts. All but strings are written as one run of letters, digits and a few
signs, and `Scalar.ofBare?` says which runs are values.
-/

namespace Emend.Toml

/-- A number with a fraction. -/
inductive Real where
  | nan
  /-- A sign and a size, which may be infinite. -/
  | signed (negative : Bool) (size : Binary64)
  deriving Repr, DecidableEq

/-- A number as decimal text: no exponent, and always a point if it is finite. Of two
shortest texts that are equally near the larger one is taken. -/
def Real.text : Real → String
  | .nan => "NaN"
  | .signed negative size =>
      (if negative then "-" else "")
        ++ (if size.bits = Binary64.infinityBits then "inf"
          else (size.shortest .upward).positional)

/-- A value without parts. Of a date or a time only the kind is kept. -/
inductive Scalar where
  | string (text : String)
  | integer (value : Int)
  | real (value : Real)
  | boolean (value : Bool)
  | datetime
  deriving Repr, DecidableEq

def Scalar.typeName : Scalar → String
  | .string _ => "string"
  | .integer _ => "integer"
  | .real _ => "float"
  | .boolean _ => "boolean"
  | .datetime => "datetime"

/-- The digits of a number in which single underscores may part groups of them. -/
def digitGroups? (isDigit : Char → Bool) (text : List Char) : Option (List Char) :=
  let groups := Text.pieces ['_'] text
  if groups.all fun group => !group.isEmpty && group.all isDigit then some groups.flatten
  else none

/-- The number written by digits of a base. -/
def ofDigits (base : Nat) (digits : List Char) : Nat :=
  digits.foldl (fun n c => base * n + (hexDigit? c).getD 0) 0

/-- The number written by decimal digits and nothing else. -/
def decimal? (text : List Char) : Option Nat :=
  if !text.isEmpty && text.all Char.isDigit then some (ofDigits 10 text) else none

def daysOfMonth (year month : Nat) : Nat :=
  if month = 2 then
    if year % 4 = 0 && (year % 100 != 0 || year % 400 = 0) then 29 else 28
  else if month = 4 || month = 6 || month = 9 || month = 11 then 30
  else 31

/-- The rest behind a date of the calendar. -/
def passDate? : List Char → Option (List Char)
  | y1 :: y2 :: y3 :: y4 :: '-' :: m1 :: m2 :: '-' :: d1 :: d2 :: rest => do
      let year ← decimal? [y1, y2, y3, y4]
      let month ← decimal? [m1, m2]
      let day ← decimal? [d1, d2]
      guard (1 ≤ month && month ≤ 12 && 1 ≤ day && day ≤ daysOfMonth year month)
      return rest
  | _ => none

/-- The rest behind the hours and minutes of a time. -/
def passMinutes? : List Char → Option (List Char)
  | h1 :: h2 :: ':' :: m1 :: m2 :: rest => do
      let hour ← decimal? [h1, h2]
      let minute ← decimal? [m1, m2]
      guard (hour < 24 && minute < 60)
      return rest
  | _ => none

/-- The rest behind a time of the day. Seconds may be left out, and may have a fraction. -/
def passTime? (text : List Char) : Option (List Char) := do
  match ← passMinutes? text with
  | ':' :: s1 :: s2 :: rest =>
      let second ← decimal? [s1, s2]
      guard (second ≤ 60)
      match rest with
      | '.' :: fraction =>
          guard (fraction.head?.any Char.isDigit)
          return fraction.dropWhile Char.isDigit
      | _ => return rest
  | rest => return rest

/-- Whether a text is empty or the distance of a clock from universal time. -/
def isOffset : List Char → Bool
  | [] => true
  | ['Z'] => true
  | ['z'] => true
  | '+' :: text => passMinutes? text == some []
  | '-' :: text => passMinutes? text == some []
  | _ => false

def isDatetime (text : List Char) : Bool :=
  match passDate? text with
  | some [] => true
  | some (separator :: time) =>
      (separator == 'T' || separator == 't' || separator == ' ')
        && (passTime? time).any isOffset
  | none => passTime? text == some []

/-- Whether digits are those of a decimal number as it has to be written: without
needless zeros at the front. -/
def isPlain (digits : List Char) : Bool :=
  digits.length == 1 || digits.head? != some '0'

/-- The power of ten behind the letter that starts it. -/
def exponent? (text : List Char) : Option Int :=
  match text with
  | '-' :: digits => (digitGroups? Char.isDigit digits).map fun ds => -(ofDigits 10 ds : Int)
  | '+' :: digits => (digitGroups? Char.isDigit digits).map fun ds => (ofDigits 10 ds : Int)
  | digits => (digitGroups? Char.isDigit digits).map fun ds => (ofDigits 10 ds : Int)

/-- The size of a number with a fraction or a power of ten. -/
def realSize? (text : List Char) : Option Binary64 := do
  let isE := fun c : Char => c == 'e' || c == 'E'
  let mantissa := text.takeWhile fun c => !isE c
  let exponent ← match text.dropWhile fun c => !isE c with
    | [] => some 0
    | _ :: digits => exponent? digits
  let whole := mantissa.takeWhile (· != '.')
  let fraction ← match mantissa.dropWhile (· != '.') with
    | [] => some []
    | _ :: digits => digitGroups? Char.isDigit digits
  let digits ← digitGroups? Char.isDigit whole
  guard (isPlain digits)
  let size := Binary64.ofDecimal ⟨ofDigits 10 (digits ++ fraction), exponent - fraction.length⟩
  guard (size.bits < Binary64.infinityBits)
  return size

/-- The size of a whole number in decimal notation. -/
def wholeSize? (text : List Char) : Option Nat := do
  let digits ← digitGroups? Char.isDigit text
  guard (isPlain digits)
  return ofDigits 10 digits

/-- A whole number if it fits into 64 bits with a sign. -/
def Scalar.ofInt? (value : Int) : Option Scalar :=
  if -0x8000000000000000 ≤ value && value < 0x8000000000000000 then some (.integer value)
  else none

def number? (negative : Bool) (size : List Char) : Option Scalar :=
  if size = "inf".toList then some (.real (.signed negative ⟨Binary64.infinityBits⟩))
  else if size = "nan".toList then some (.real .nan)
  else match wholeSize? size with
    | some n => Scalar.ofInt? (if negative then -(n : Int) else n)
    | none => (realSize? size).map fun x => .real (.signed negative x)

def isBinaryDigit (c : Char) : Bool := c == '0' || c == '1'

def isOctalDigit (c : Char) : Bool := '0' ≤ c && c ≤ '7'

/-- The value that a run of characters without quotes is, if it is one. -/
def Scalar.ofBare? (text : List Char) : Option Scalar :=
  if text = "true".toList then some (.boolean true)
  else if text = "false".toList then some (.boolean false)
  else if isDatetime text then some .datetime
  else match text with
    | '0' :: 'x' :: digits =>
        (digitGroups? (fun c => (hexDigit? c).isSome) digits).bind fun ds =>
          ofInt? (ofDigits 16 ds)
    | '0' :: 'o' :: digits =>
        (digitGroups? isOctalDigit digits).bind fun ds => ofInt? (ofDigits 8 ds)
    | '0' :: 'b' :: digits =>
        (digitGroups? isBinaryDigit digits).bind fun ds => ofInt? (ofDigits 2 ds)
    | '+' :: size => number? false size
    | '-' :: size => number? true size
    | size => number? false size

namespace Reader

def isBare (c : Char) : Bool :=
  c.isAlphanum || c == '+' || c == '-' || c == '_' || c == '.' || c == ':'

/-- Whether the text goes on with one blank and a digit. -/
def timeFollows : Reader Bool := fun cur =>
  match cur.rest with
  | ' ' :: c :: _ => .ok (c.isDigit, cur)
  | _ => .ok (false, cur)

/-- Takes the characters of a value without quotes. A blank may part a date from its time. -/
def bareText : Reader (List Char) := do
  let text ← takeWhile isBare
  if passDate? text == some [] && (← timeFollows) then
    let blank ← next
    return text ++ blank :: (← takeWhile isBare)
  else return text

def bare : Reader Scalar := do
  let start ← place
  match Scalar.ofBare? (← bareText) with
  | some value => return value
  | none => refuseFrom start .noValue

def scalar : Reader Scalar := do
  match ← peek? with
  | some '"' => return .string (← string '"')
  | some '\'' => return .string (← string '\'')
  | _ => bare

end Reader

end Emend.Toml
