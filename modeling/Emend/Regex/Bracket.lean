import Emend.Regex.Escape

/-! # Bracketed classes

A class is read with a stack: each frame is a class that has been opened, or the left
side of an operator whose right side is being read. All operators bind equally and to
the left, and weaker than writing items side by side.
-/

namespace Emend.Regex

/-- The items of a class read so far, last first, and the span they cover. -/
structure Items where
  span : Span
  items : List ClassSet

namespace Items

def none (pos : Position) : Items := ⟨.point pos, []⟩

def push (u : Items) (item : ClassSet) : Items :=
  let start := if u.items.isEmpty then item.span.start else u.span.start
  ⟨⟨start, item.span.stop⟩, item :: u.items⟩

def toSet (u : Items) : ClassSet :=
  match u.items with
  | [] => .empty u.span
  | [item] => item
  | items => .union u.span items.reverse

end Items

/-- What waits while a part of a class is read. -/
inductive ClassFrame where
  /-- A class opened at a span, inside a class with the given items. -/
  | opened (outer : Items) (span : Span) (negated : Bool)
  /-- An operator and its left side. -/
  | operand (op : SetOp) (lhs : ClassSet)

/-- Gives the innermost operator its right side. -/
def closeOperand (rhs : ClassSet) : List ClassFrame → ClassSet × List ClassFrame
  | .operand op lhs :: stack => (.binary ⟨lhs.span.start, rhs.span.stop⟩ op lhs rhs, stack)
  | stack => (rhs, stack)

/-- The span at which the innermost open class was opened. -/
def openSpan? : List ClassFrame → Option Span
  | [] => none
  | .opened _ span _ :: _ => some span
  | .operand .. :: stack => openSpan? stack

def asciiClass? : String → Option AsciiClass
  | "alnum" => some .alnum
  | "alpha" => some .alpha
  | "ascii" => some .ascii
  | "blank" => some .blank
  | "cntrl" => some .cntrl
  | "digit" => some .digit
  | "graph" => some .graph
  | "lower" => some .lower
  | "print" => some .print
  | "punct" => some .punct
  | "space" => some .space
  | "upper" => some .upper
  | "word" => some .word
  | "xdigit" => some .xdigit
  | _ => none

/-- The item for an escape or a character, if a class admits it. -/
def Ast.toClassItem : Ast → Except Fault ClassSet
  | .literal lit => .ok (.literal lit)
  | .perl span kind negated => .ok (.perl span kind negated)
  | .property span name negated => .ok (.property span name negated)
  | ast => Cursor.fail ast.span .classEscapeInvalid

/-- The character at an end of a range. -/
def Ast.toRangeEnd : Ast → Except Fault Literal
  | .literal lit => .ok lit
  | ast => Cursor.fail ast.span .classRangeLiteral

namespace Cursor

/-- Passes the dashes that open a class and stand for themselves. -/
def leadingDashes (start : Position) : (fuel : Nat) → Items → Cursor →
    Except Fault (Items × Cursor)
  | 0, items, cur => .ok (items, cur)
  | fuel + 1, items, cur =>
      if cur.sees '-' then
        let items := items.push (.literal ⟨cur.spanChar, '-', false⟩)
        let cur := cur.bumpSpace
        if cur.atEnd then fail (.point start) .classUnclosed
        else leadingDashes start fuel items cur
      else .ok (items, cur)

/-- Opens a class, with the cursor at its bracket: the frame, the items that are plain
because of where they stand, and the cursor behind them. -/
def openClass (outer : Items) (cur : Cursor) :
    Except Fault (ClassFrame × Items × Cursor) := do
  let start := cur.pos
  let cur := cur.bumpSpace
  if cur.atEnd then fail ⟨start, cur.pos⟩ .classUnclosed
  let negated := cur.sees '^'
  let cur := if negated then cur.bumpSpace else cur
  if cur.atEnd then fail ⟨start, cur.pos⟩ .classUnclosed
  let (items, cur) ← leadingDashes start (cur.rest.length + 1) (.none cur.pos) cur
  if items.items.isEmpty && cur.sees ']' then
    let items := items.push (.literal ⟨cur.spanChar, ']', false⟩)
    let cur := cur.bumpSpace
    if cur.atEnd then fail ⟨start, cur.pos⟩ .classUnclosed
    return (.opened outer ⟨start, cur.pos⟩ negated, items, cur)
  return (.opened outer ⟨start, cur.pos⟩ negated, items, cur)

/-- Reads a named class of ASCII characters such as `[:alpha:]`, if there is one here. -/
def namedClass? (cur : Cursor) : Option (ClassSet × Cursor) := do
  let inner ← cur.take? ['[', ':']
  let negated := inner.sees '^'
  let inner := if negated then inner.bump else inner
  let name := inner.rest.takeWhile (· != ':')
  let stop ← (← inner.take? name).take? [':', ']']
  let kind ← asciiClass? (String.ofList name)
  return (.ascii ⟨cur.pos, stop.pos⟩ kind negated, stop)

/-- Reads an escape or a character that stands for itself. -/
def classPrimitive (cur : Cursor) : Except Fault (Ast × Cursor) :=
  match cur.char? with
  | some '\\' => cur.escape
  | some c => .ok (.literal ⟨cur.spanChar, c, false⟩, cur.bump)
  | none => fail cur.span .classUnclosed

/-- Reads an item or a range. A dash makes a range unless a bracket or a second dash
follows it. -/
def classRange (unclosed : Span) (cur : Cursor) : Except Fault (ClassSet × Cursor) := do
  let (first, cur) ← cur.classPrimitive
  let cur := cur.skipSpace
  if cur.atEnd then fail unclosed .classUnclosed
  if !cur.sees '-' || cur.peekSpace? == some ']' || cur.peekSpace? == some '-' then
    return (← first.toClassItem, cur)
  let cur := cur.bumpSpace
  if cur.atEnd then fail unclosed .classUnclosed
  let (last, cur) ← cur.classPrimitive
  let span : Span := ⟨first.span.start, last.span.stop⟩
  let low ← first.toRangeEnd
  let high ← last.toRangeEnd
  if low.char ≤ high.char then return (.range span low high, cur)
  else fail span .classRangeInvalid

def setOp? (cur : Cursor) : Option SetOp :=
  match cur.rest with
  | '&' :: '&' :: _ => some .intersection
  | '-' :: '-' :: _ => some .difference
  | '~' :: '~' :: _ => some .symmetricDifference
  | _ => none

/-- Reads the rest of a class whose open frames are on the stack. -/
def classBody : (fuel : Nat) → List ClassFrame → Items → Cursor → Except Fault (Ast × Cursor)
  | 0, stack, _, cur => fail ((openSpan? stack).getD cur.span) .classUnclosed
  | fuel + 1, stack, items, cur =>
      let cur := cur.skipSpace
      let unclosed := (openSpan? stack).getD cur.span
      match cur.char? with
      | none => fail unclosed .classUnclosed
      | some '[' =>
          match cur.namedClass? with
          | some (item, cur) => classBody fuel stack (items.push item) cur
          | none => do
              let (frame, inner, cur) ← cur.openClass items
              classBody fuel (frame :: stack) inner cur
      | some ']' =>
          let cur := cur.bump
          match closeOperand items.toSet stack with
          | (set, .opened outer span negated :: stack) =>
              let span : Span := ⟨span.start, cur.pos⟩
              if stack.isEmpty then .ok (.bracketed span negated set, cur)
              else classBody fuel stack (outer.push (.bracketed span negated set)) cur
          | (set, _) => .ok (.bracketed set.span false set, cur)
      | some _ =>
          match cur.setOp? with
          | some op =>
              let (lhs, stack) := closeOperand items.toSet stack
              let cur := cur.bump.bump
              classBody fuel (.operand op lhs :: stack) (.none cur.pos) cur
          | none => do
              let (item, cur) ← cur.classRange unclosed
              classBody fuel stack (items.push item) cur

/-- Reads a bracketed class, with the cursor at its bracket. -/
def bracketed (cur : Cursor) : Except Fault (Ast × Cursor) := do
  let (frame, items, next) ← cur.openClass (.none cur.pos)
  classBody (next.rest.length + 1) [frame] items next

end Cursor

end Emend.Regex
