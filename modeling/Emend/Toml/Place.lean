import Emend.Text.Occurrence

/-! # Places in documents

What is wrong with a document is reported with the line it is found on and with carets under the
part of that line that it concerns.
-/

namespace Emend.Toml

/-- A place in a text: the number of bytes before it, and its line and column in
characters, both counted from one. -/
structure Place where
  offset : Nat
  line : Nat
  column : Nat
  deriving Repr, DecidableEq, Inhabited

namespace Place

def first : Place := ⟨0, 1, 1⟩

def advance (p : Place) (c : Char) : Place :=
  let offset := p.offset + c.utf8Size
  if c = '\n' then ⟨offset, p.line + 1, 1⟩ else ⟨offset, p.line, p.column + 1⟩

end Place

/-- A part of a text, from its first place to the place behind it. -/
structure Span where
  start : Place
  stop : Place
  deriving Repr, DecidableEq, Inhabited

namespace Span

/-- The number of carets under a span on a line: the bytes of the span, but no more than
the line has from its column on, and at least one. -/
def width (span : Span) (line : String) : Nat :=
  let room := line.utf8ByteSize - (span.start.column - 1)
  max 1 (min (span.stop.offset - span.start.offset) room)

/-- The report of something at a span of a document: the place, the line with carets under
the span, and what there is to say. -/
def report (span : Span) (document message : String) : String :=
  let place := span.start
  let line := String.ofList ((Text.pieces ['\n'] document.toList)[place.line - 1]?.getD [])
  let number := toString place.line
  let gutter := String.ofList (List.replicate (number.length + 1) ' ') ++ "|"
  let carets := List.replicate (place.column - 1) ' ' ++ List.replicate (span.width line) '^'
  "TOML parse error at line " ++ number ++ ", column " ++ toString place.column ++ "\n"
    ++ gutter ++ "\n"
    ++ number ++ " | " ++ line ++ "\n"
    ++ gutter ++ " " ++ String.ofList carets ++ "\n"
    ++ message ++ "\n"

end Span

end Emend.Toml
