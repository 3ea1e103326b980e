/-! # White space and lines

Two ways of cutting a text into lines. `lines` drops the line ends and knows only
the line feed, with a carriage return right before it. `endedLines` keeps the line
ends and also ends a line at a lone carriage return, so its lines join to the text.
-/

namespace Emend.Text

/-- The characters of the Unicode property White_Space. -/
def isSpace (c : Char) : Bool :=
  let n := c.toNat
  (9 ≤ n && n ≤ 13) || n == 0x20 || n == 0x85 || n == 0xA0 || n == 0x1680
    || (0x2000 ≤ n && n ≤ 0x200A) || n == 0x2028 || n == 0x2029 || n == 0x202F
    || n == 0x205F || n == 0x3000

def trimEnd (text : List Char) : List Char :=
  (text.reverse.dropWhile isSpace).reverse

def trim (text : List Char) : List Char :=
  trimEnd (text.dropWhile isSpace)

def isBlank (text : List Char) : Bool :=
  text.all isSpace

/-- Puts a character at the start of the first line, which it begins if there is none. -/
def consLine (c : Char) : List (List Char) → List (List Char)
  | [] => [[c]]
  | line :: rest => (c :: line) :: rest

/-- The lines without their ends. A text that ends with a line feed has no further
empty line after it. -/
def lines : List Char → List (List Char)
  | [] => []
  | '\n' :: text => [] :: lines text
  | '\r' :: '\n' :: text => [] :: lines text
  | c :: text => consLine c (lines text)

/-- The lines with their ends: a line feed, a carriage return, or both in the order
return, feed. -/
def endedLines : List Char → List (List Char)
  | [] => []
  | '\r' :: '\n' :: text => ['\r', '\n'] :: endedLines text
  | '\n' :: text => ['\n'] :: endedLines text
  | '\r' :: text => ['\r'] :: endedLines text
  | c :: text => consLine c (endedLines text)

/-- A text with blanks before it up to a width. -/
def alignRight (width : Nat) (text : List Char) : List Char :=
  List.replicate (width - text.length) ' ' ++ text

theorem flatten_consLine (c : Char) (ls : List (List Char)) :
    (consLine c ls).flatten = c :: ls.flatten := by
  cases ls <;> simp [consLine]

theorem flatten_endedLines (text : List Char) : (endedLines text).flatten = text := by
  fun_induction endedLines text with
  | case1 => rfl
  | case2 text ih => simp [ih]
  | case3 text ih => simp [ih]
  | case4 text _ ih => simp [ih]
  | case5 c text _ _ _ ih => rw [flatten_consLine, ih]

end Emend.Text
