import Emend.Toml.Reader

/-! # Quoted strings

Between double quotes a backslash starts an escape, between single quotes all characters
stand for themselves. Between three quotes a string may run over several lines: a line
end right behind the opening quotes does not count, up to two quotes may stand
right before the closing ones, and a backslash at the end of a line joins the next
text to it. Line ends are kept as they are written.
-/

namespace Emend.Toml

def hexDigit? (c : Char) : Option Nat :=
  if c.isDigit then some (c.toNat - '0'.toNat)
  else if 'a' ≤ c && c ≤ 'f' then some (c.toNat - 'a'.toNat + 10)
  else if 'A' ≤ c && c ≤ 'F' then some (c.toNat - 'A'.toNat + 10)
  else none

namespace Reader

/-- Reads a character that is given by a number of hexadecimal digits. -/
def numbered (digits : Nat) : Reader Char := do go (← place) digits 0
where
  go (start : Place) : Nat → Nat → Reader Char
    | 0, value => do
        unless value.isValidChar do refuseFrom start .noCharacter
        return Char.ofNat value
    | digits + 1, value => do
        match hexDigit? (← next) with
        | some digit => go start digits (16 * value + digit)
        | none => refuseFrom start .missingDigit

/-- Reads the part of an escape behind its backslash. -/
def escape : Reader Char := do
  let start ← place
  match ← next with
  | 'b' => return '\x08'
  | 't' => return '\t'
  | 'n' => return '\n'
  | 'f' => return '\x0c'
  | 'r' => return '\r'
  | 'e' => return '\x1b'
  | '"' => return '"'
  | '\\' => return '\\'
  | 'x' => numbered 2
  | 'u' => numbered 4
  | 'U' => numbered 8
  | _ => refuseFrom start .unknownEscape

/-- A kind of strings, as faults name it. -/
def stringKind (quote : Char) : String :=
  if quote == '"' then "basic string" else "literal string"

/-- Reads a string of one line up to its closing quote. `taken` holds the characters
before, last first. -/
def lineString (quote : Char) (taken : List Char) : (fuel : Nat) → Reader String
  | 0 => refuse .unfinished
  | fuel + 1 => do
      if ← atLineEnd then refuse (.unclosedString (stringKind quote) (String.singleton quote))
      let start ← place
      let c ← next
      if c == quote then return String.ofList taken.reverse
      else if c == '\\' && quote == '"' then
        lineString quote ((← escape) :: taken) fuel
      else do
        unless isText c do refuseFrom start (.controlInString (stringKind quote))
        lineString quote (c :: taken) fuel

/-- Whether the text goes on with blanks and the end of a line. -/
def endsLine : Reader Bool := fun cur =>
  let rest := cur.rest.dropWhile isBlank
  .ok (['\n'].isPrefixOf rest || ['\r', '\n'].isPrefixOf rest, cur)

def emptyLines : (fuel : Nat) → Reader Unit
  | 0 => refuse .unfinished
  | fuel + 1 => do
      blanks
      if ← newline then emptyLines fuel

/-- Reads a string of several lines up to its closing quotes. `taken` holds the
characters before, last first. -/
def linesString (quote : Char) (taken : List Char) : (fuel : Nat) → Reader String
  | 0 => refuse .unfinished
  | fuel + 1 => do
      let kind := "multi-line " ++ stringKind quote
      let quotes := [quote, quote, quote]
      if ← accept quotes then
        let first ← accept [quote]
        let second ← if first then accept [quote] else pure false
        let more := (if first then [quote] else []) ++ (if second then [quote] else [])
        return String.ofList (taken.reverse ++ more)
      else if ← accept ['\r', '\n'] then linesString quote ('\n' :: '\r' :: taken) fuel
      else if (← peek?).isNone then refuse (.unclosedString kind (String.ofList quotes))
      else
        let start ← place
        let c ← next
        if c == '\\' && quote == '"' then
          if ← endsLine then
            emptyLines fuel
            linesString quote taken fuel
          else linesString quote ((← escape) :: taken) fuel
        else do
          unless c == '\n' || isText c do refuseFrom start (.controlInString kind)
          linesString quote (c :: taken) fuel

/-- Reads a string of one line, from its opening quote on. -/
def shortString (quote : Char) : Reader String := do
  let _ ← next
  loop (lineString quote [])

/-- Reads a string that starts with a given quote. -/
def string (quote : Char) : Reader String := do
  if ← accept [quote, quote, quote] then
    let _ ← newline
    loop (linesString quote [])
  else shortString quote

end Reader

end Emend.Toml
