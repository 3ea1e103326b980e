import Emend.Regex.Cursor

/-! # Escapes

What a backslash and the characters behind it stand for. An escape is read the same
inside and outside of a bracketed class; which of them a class admits is decided there.
-/

namespace Emend.Regex

/-- The characters that have a meaning of their own somewhere in a pattern. -/
def isMeta (c : Char) : Bool :=
  "\\.+*?()|[]\x7b\x7d^$#&-~".toList.contains c

/-- The characters that may stand behind a backslash for themselves: ASCII characters
other than letters, digits and angle brackets. -/
def isEscapable (c : Char) : Bool :=
  c.toNat < 128 && !c.isAlphanum && c != '<' && c != '>'

def hexValue? (c : Char) : Option Nat :=
  if '0' ≤ c ∧ c ≤ '9' then some (c.toNat - '0'.toNat)
  else if 'a' ≤ c ∧ c ≤ 'f' then some (c.toNat - 'a'.toNat + 10)
  else if 'A' ≤ c ∧ c ≤ 'F' then some (c.toNat - 'A'.toNat + 10)
  else none

def charOf? (n : Nat) : Option Char :=
  if n.isValidChar then some (Char.ofNat n) else none

namespace Cursor

def hexDigits : (count value : Nat) → Cursor → Except Fault (Nat × Cursor)
  | 0, value, cur => .ok (value, cur)
  | count + 1, value, cur =>
      match cur.char? with
      | none => fail cur.span .escapeUnexpectedEnd
      | some c =>
          match hexValue? c with
          | none => fail cur.spanChar .escapeHexInvalidDigit
          | some d => hexDigits count (16 * value + d) cur.bumpSpace

/-- Reads hexadecimal digits up to a closing brace, with the number of digits read. -/
def hexUntilBrace (brace : Position) :
    (fuel digits value : Nat) → Cursor → Except Fault (Nat × Nat × Cursor)
  | 0, _, _, cur => fail ⟨brace, cur.pos⟩ .escapeUnexpectedEnd
  | fuel + 1, digits, value, cur =>
      match cur.char? with
      | none => fail ⟨brace, cur.pos⟩ .escapeUnexpectedEnd
      | some '}' => .ok (digits, value, cur)
      | some c =>
          match hexValue? c with
          | none => fail cur.spanChar .escapeHexInvalidDigit
          | some d => hexUntilBrace brace fuel (digits + 1) (16 * value + d) cur.bumpSpace

/-- The literal for a code point written in hexadecimal, from `start` on. -/
def hexLiteral (start : Position) (invalid : Span) (value : Nat) (isByte : Bool)
    (cur : Cursor) : Except Fault (Literal × Cursor) :=
  match charOf? value with
  | none => fail invalid .escapeHexInvalid
  | some c => .ok (⟨⟨start, cur.pos⟩, c, isByte⟩, cur)

/-- Reads the code point behind `\x`, `\u` or `\U`, with the cursor at that letter. -/
def hexEscape (start : Position) (letter : Char) (cur : Cursor) :
    Except Fault (Literal × Cursor) :=
  let count := if letter = 'x' then 2 else if letter = 'u' then 4 else 8
  let cur := cur.bumpSpace
  match cur.char? with
  | none => fail cur.span .escapeUnexpectedEnd
  | some '{' => do
      let first := cur.bump.pos
      let (digits, value, stop) ← hexUntilBrace cur.pos (cur.rest.length + 1) 0 0 cur.bumpSpace
      let next := stop.bumpSpace
      if digits = 0 then fail ⟨cur.pos, next.pos⟩ .escapeHexEmpty
      else hexLiteral start ⟨first, stop.pos⟩ value false next
  | some _ => do
      let (value, next) ← hexDigits count 0 cur
      hexLiteral start ⟨cur.pos, next.pos⟩ value (letter == 'x') next

def untilBrace : (fuel : Nat) → (acc : List Char) → Cursor → Except Fault (List Char × Cursor)
  | 0, _, cur => fail cur.span .escapeUnexpectedEnd
  | fuel + 1, acc, cur =>
      match cur.char? with
      | none => fail cur.span .escapeUnexpectedEnd
      | some '}' => .ok (acc.reverse, cur.bump)
      | some c => untilBrace fuel (c :: acc) cur.bumpSpace

/-- Splits a property name at the first sign between property and value: `!=` before a
colon, a colon before an equals sign. -/
def propertyName (text : List Char) : PropertyName :=
  let split (sign : List Char) (other : Bool) : Option PropertyName :=
    (Text.cut? sign text).map fun (name, value) =>
      .valued (String.ofList name) (String.ofList value) other
  ((split ['!', '='] true).or ((split [':'] false).or (split ['='] false))).getD
    (.name (String.ofList text))

/-- Reads the property behind `\p` or `\P`, with the cursor at that letter. -/
def propertyEscape (start : Position) (negated : Bool) (cur : Cursor) :
    Except Fault (Ast × Cursor) :=
  let cur := cur.bumpSpace
  match cur.char? with
  | none => fail cur.span .escapeUnexpectedEnd
  | some '{' => do
      let (text, cur) ← untilBrace (cur.rest.length + 1) [] cur.bumpSpace
      .ok (.property ⟨start, cur.pos⟩ (propertyName text) negated, cur)
  | some '\\' => fail cur.spanChar .propertyEscapeInvalid
  | some c =>
      let cur := cur.bumpSpace
      .ok (.property ⟨start, cur.pos⟩ (.name (String.singleton c)) negated, cur)

def boundaryName : (fuel : Nat) → (acc : List Char) → Cursor → List Char × Cursor
  | 0, acc, cur => (acc.reverse, cur)
  | fuel + 1, acc, cur =>
      match cur.char? with
      | none => (acc.reverse, cur)
      | some c =>
          if c.isAlpha || c == '-' then boundaryName fuel (c :: acc) cur.bumpSpace
          else (acc.reverse, cur)

/-- Reads the name in braces behind `\b`, with the cursor at the opening brace. There is
none if what follows can only be a counted repetition. -/
def boundaryKind? (start : Position) (cur : Cursor) :
    Except Fault (Option (Assertion × Cursor)) :=
  let inner := cur.bumpSpace
  match inner.char? with
  | none => fail ⟨start, inner.pos⟩ .wordBoundaryUnexpectedEnd
  | some c =>
      if c.isAlpha || c == '-' then
        let (name, stop) := boundaryName (inner.rest.length + 1) [] inner
        if !stop.sees '}' then fail ⟨cur.pos, stop.pos⟩ .wordBoundaryUnclosed
        else match String.ofList name with
          | "start" => .ok (some (.wordStart, stop.bump))
          | "end" => .ok (some (.wordEnd, stop.bump))
          | "start-half" => .ok (some (.wordStartHalf, stop.bump))
          | "end-half" => .ok (some (.wordEndHalf, stop.bump))
          | _ => fail ⟨inner.pos, stop.pos⟩ .wordBoundaryUnrecognized
      else .ok none

def controlEscape? : Char → Option Char
  | 'a' => some '\x07'
  | 'f' => some '\x0C'
  | 't' => some '\t'
  | 'n' => some '\n'
  | 'r' => some '\r'
  | 'v' => some '\x0B'
  | _ => none

/-- The class that a letter behind a backslash stands for, and whether it is negated. -/
def perlEscape? : Char → Option (PerlClass × Bool)
  | 'd' => some (.digit, false)
  | 'D' => some (.digit, true)
  | 's' => some (.space, false)
  | 'S' => some (.space, true)
  | 'w' => some (.word, false)
  | 'W' => some (.word, true)
  | _ => none

/-- The condition that a character behind a backslash stands for, but for `\b`. -/
def assertionEscape? : Char → Option Assertion
  | 'A' => some .startText
  | 'z' => some .endText
  | 'B' => some .notWordBoundary
  | '<' => some .wordStart
  | '>' => some .wordEnd
  | _ => none

/-- Reads an escape, with the cursor at the backslash. -/
def escape (cur : Cursor) : Except Fault (Ast × Cursor) :=
  let start := cur.pos
  let cur := cur.bump
  match cur.char? with
  | none => fail ⟨start, cur.pos⟩ .escapeUnexpectedEnd
  | some c =>
      let next := cur.bump
      let span : Span := ⟨start, next.pos⟩
      if isMeta c || isEscapable c then .ok (.literal ⟨span, c, false⟩, next)
      else if c.isDigit then fail span .backreference
      else if c = 'x' || c = 'u' || c = 'U' then do
        let (lit, next) ← hexEscape start c cur
        .ok (.literal lit, next)
      else if c = 'p' || c = 'P' then propertyEscape start (c == 'P') cur
      else if c = 'b' then
        if next.sees '{' then do
          match ← boundaryKind? start next with
          | some (kind, next) => .ok (.assertion ⟨start, next.pos⟩ kind, next)
          | none => .ok (.assertion span .wordBoundary, next)
        else .ok (.assertion span .wordBoundary, next)
      else
        match perlEscape? c, controlEscape? c, assertionEscape? c with
        | some (kind, negated), _, _ => .ok (.perl span kind negated, next)
        | none, some control, _ => .ok (.literal ⟨span, control, false⟩, next)
        | none, none, some kind => .ok (.assertion span kind, next)
        | none, none, none => fail span .escapeUnrecognized

end Cursor

end Emend.Regex
