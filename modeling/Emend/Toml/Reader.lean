import Emend.Toml.Fault

/-! # Reading a document

A reader takes characters from the front of a text and fails where they do not fit. It
knows the place it has reached, so that what it reads can be found again in the text, and what
does not fit can be pointed at.
-/

namespace Emend.Toml

/-- The rest of a text and the place where it starts. -/
structure Cursor where
  rest : List Char
  place : Place
  deriving Repr

/-- The start of a text. A byte order mark there is passed. -/
def Cursor.start (text : List Char) : Cursor :=
  match text with
  | '\uFEFF' :: rest => ⟨rest, Place.first.advance '\uFEFF'⟩
  | _ => ⟨text, .first⟩

/-- Reads a value from the front of a text, or fails. -/
abbrev Reader := StateT Cursor (Except Fault)

namespace Reader

variable {α : Type}

/-- The next character, which is not taken. -/
def peek? : Reader (Option Char) := fun cur => .ok (cur.rest.head?, cur)

def place : Reader Place := fun cur => .ok (cur.place, cur)

/-- Fails with what has been read from a place on. -/
def refuseFrom (start : Place) (kind : FaultKind) : Reader α := fun cur =>
  .error ⟨⟨start, cur.place⟩, kind⟩

/-- Fails at the place reached. -/
def refuse (kind : FaultKind) : Reader α := do refuseFrom (← place) kind

def next : Reader Char := fun cur =>
  match cur.rest with
  | [] => refuse .unfinished cur
  | c :: rest => .ok (c, ⟨rest, cur.place.advance c⟩)

/-- Takes a text if the rest starts with it, and says whether it did. -/
def accept (text : List Char) : Reader Bool := fun cur =>
  if text.isPrefixOf cur.rest then
    .ok (true, ⟨cur.rest.drop text.length, text.foldl Place.advance cur.place⟩)
  else .ok (false, cur)

/-- Takes a text that has to follow. -/
def expect (text : List Char) (absent : FaultKind) : Reader Unit := do
  unless ← accept text do refuse absent

/-- Takes the characters up to the first one outside a class. -/
def takeWhile (admits : Char → Bool) : Reader (List Char) := fun cur =>
  let taken := cur.rest.takeWhile admits
  .ok (taken, ⟨cur.rest.drop taken.length, taken.foldl Place.advance cur.place⟩)

/-- Reads a value and the span it covers. -/
def spanned (reader : Reader α) : Reader (Span × α) := do
  let start ← place
  let value ← reader
  return (⟨start, ← place⟩, value)

/-- Runs a loop with as many steps as characters remain. A loop whose every step takes a
character needs no more: when its steps are used up, the text is. -/
def loop (body : (fuel : Nat) → Reader α) : Reader α := fun cur =>
  body (cur.rest.length + 1) cur

def isBlank (c : Char) : Bool := c == ' ' || c == '\t'

/-- Whether a character may stand in a comment: all but the control characters, of
which the tab may. -/
def isText (c : Char) : Bool := c == '\t' || (' ' ≤ c && c != '\x7f')

def blanks : Reader Unit := do
  let _ ← takeWhile isBlank

/-- Whether a line ends here. -/
def atLineEnd : Reader Bool := fun cur =>
  .ok (cur.rest.isEmpty || ['\n'].isPrefixOf cur.rest || ['\r', '\n'].isPrefixOf cur.rest, cur)

def comment : Reader Unit := do
  if ← accept ['#'] then
    let _ ← takeWhile isText
    unless ← atLineEnd do refuse .controlInComment

/-- Takes a line end, if there is one. A carriage return alone is none. -/
def newline : Reader Bool := do
  if ← accept ['\n'] then return true else accept ['\r', '\n']

/-- Takes what may stand behind the last part of a line, and the end of the line or of
the text. -/
def lineEnd : Reader Unit := do
  blanks
  comment
  unless ← atLineEnd do refuse .overlong
  let _ ← newline

/-- Takes white space, comments and line ends. -/
def gap : Reader Unit := loop go
where
  go : Nat → Reader Unit
    | 0 => refuse .unfinished
    | fuel + 1 => do
        blanks
        comment
        if ← newline then go fuel

end Reader

end Emend.Toml
