import Emend.Regex.Bracket
import Emend.Unicode.Query

/-! # From patterns to syntax trees

The parser walks over the pattern once. Groups and alternations that have been opened
wait on a stack, and the expressions read since then are collected in a sequence. The
finished tree must not be nested too deeply.
-/

namespace Emend.Regex

/-- A sequence of expressions being read, last first. -/
structure Sequence where
  start : Position
  parts : List Ast

namespace Sequence

/-- The sequence as one expression that ends at a place. -/
def toAst (s : Sequence) (stop : Position) : Ast :=
  match s.parts with
  | [] => .empty ⟨s.start, stop⟩
  | [ast] => ast
  | parts => .concat ⟨s.start, stop⟩ parts.reverse

def push (s : Sequence) (ast : Ast) : Sequence := { s with parts := ast :: s.parts }

end Sequence

/-- What waits while a part of a pattern is read. -/
inductive Frame where
  /-- An open group in a sequence; white space was ignored around it or not. -/
  | group (outer : Sequence) (span : Span) (kind : GroupKind) (verbose : Bool)
  /-- The branches of an alternation that have been read, last first. -/
  | branches (start : Position) (done : List Ast)

structure ParserState where
  cur : Cursor
  stack : List Frame
  seq : Sequence
  /-- The number of capturing groups opened so far. -/
  groups : Nat
  /-- Their names, with the spans of the names. -/
  names : List (String × Span)

def Flag.ofChar? : Char → Option Flag
  | 'i' => some .caseInsensitive
  | 'm' => some .multiLine
  | 's' => some .dotMatchesNewLine
  | 'U' => some .swapGreed
  | 'u' => some .unicode
  | 'R' => some .crlf
  | 'x' => some .ignoreWhitespace
  | _ => none

/-- Whether a group name may hold a character, at its start or behind it. -/
def isNameChar (first : Bool) (c : Char) : Bool :=
  if first then c == '_' || Unicode.alphabetic.contains c
  else c == '_' || c == '.' || c == '[' || c == ']' || Unicode.alphanumeric.contains c

namespace Cursor

/-- Reads flags up to a colon or a closing parenthesis, last first. -/
def flagItems : (fuel : Nat) → List FlagItem → Cursor → Except Fault (List FlagItem × Cursor)
  | 0, _, cur => fail cur.span .flagUnexpectedEnd
  | fuel + 1, items, cur =>
      match cur.char? with
      | none => fail cur.span .flagUnexpectedEnd
      | some c =>
          if c = ':' || c = ')' then
            match items with
            | ⟨span, none⟩ :: _ => fail span .flagDanglingNegation
            | _ => .ok (items, cur)
          else do
            let flag ←
              if c = '-' then pure none
              else match Flag.ofChar? c with
                | some f => pure (some f)
                | none => fail cur.spanChar .flagUnrecognized
            match items.find? fun item => item.flag = flag with
            | some item =>
                .error ⟨if flag.isNone then .flagRepeatedNegation else .flagDuplicate,
                  cur.spanChar, some item.span⟩
            | none =>
                let next := cur.bump
                if next.atEnd then fail next.span .flagUnexpectedEnd
                else flagItems fuel (⟨cur.spanChar, flag⟩ :: items) next

def nameChars (start : Position) : (fuel : Nat) → (acc : List Char) → Cursor →
    Except Fault (List Char × Cursor)
  | 0, _, cur => fail cur.span .groupNameUnexpectedEnd
  | fuel + 1, acc, cur =>
      match cur.char? with
      | none => fail cur.span .groupNameUnexpectedEnd
      | some '>' => .ok (acc.reverse, cur)
      | some c =>
          if isNameChar (cur.pos == start) c then nameChars start fuel (c :: acc) cur.bump
          else fail cur.spanChar .groupNameInvalid

def groupName (names : List (String × Span)) (cur : Cursor) :
    Except Fault (String × Span × Cursor) := do
  let start := cur.pos
  let (chars, stop) ← nameChars start (cur.rest.length + 1) [] cur
  let span : Span := ⟨start, stop.pos⟩
  let name := String.ofList chars
  if chars.isEmpty then fail (.point start) .groupNameEmpty
  else match names.lookup name with
    | some other => .error ⟨.groupNameDuplicate, span, some other⟩
    | none => .ok (name, span, stop.bump)

/-- The place behind the start of a look-around, if one begins here. -/
def lookAround? (cur : Cursor) : Option Cursor :=
  (cur.take? ['?', '=']).or <| (cur.take? ['?', '!']).or <|
    (cur.take? ['?', '<', '=']).or (cur.take? ['?', '<', '!'])

/-- Reads a decimal number with the blanks around it. -/
def decimalDigits : (fuel : Nat) → (acc : List Char) → Cursor → List Char × Cursor
  | 0, acc, cur => (acc.reverse, cur)
  | fuel + 1, acc, cur =>
      match cur.char? with
      | none => (acc.reverse, cur)
      | some c => if c.isDigit then decimalDigits fuel (c :: acc) cur.bumpSpace
          else (acc.reverse, cur)

/-- Passes blanks, and what is ignored behind each of them if `deep` is set. -/
def passBlanks (deep : Bool) : (fuel : Nat) → Cursor → Cursor
  | 0, cur => cur
  | fuel + 1, cur =>
      match cur.char? with
      | none => cur
      | some c =>
          if Text.isSpace c then passBlanks deep fuel (if deep then cur.bumpSpace else cur.bump)
          else cur

/-- The bounds of a repetition fit into 32 bits. -/
def maxCount : Nat := 4294967295

/-- Reads a count. The place behind it is known even if there is none. -/
def count (cur : Cursor) : Except Fault Nat × Cursor :=
  let cur := passBlanks false cur.rest.length cur
  let start := cur.pos
  let (digits, stop) := decimalDigits cur.rest.length [] cur
  let span : Span := ⟨start, stop.pos⟩
  let value := digits.foldl (fun n c => 10 * n + (c.toNat - '0'.toNat)) 0
  let result :=
    if digits.isEmpty then fail span .repetitionCountEmpty
    else if value > maxCount then fail span .decimalInvalid
    else .ok value
  (result, passBlanks true stop.rest.length stop)

/-- Reads the counts between braces, with the cursor at the opening brace. The cursor
ends at the closing brace. -/
def countRange (cur : Cursor) : Except Fault (Nat × Option Nat × Cursor) := do
  let start := cur.pos
  let cur := cur.bumpSpace
  if cur.atEnd then fail ⟨start, cur.pos⟩ .repetitionCountUnclosed
  let (low, cur) := cur.count
  if cur.atEnd then fail ⟨start, cur.pos⟩ .repetitionCountUnclosed
  let (min, max, cur) ←
    if cur.sees ',' then do
      let cur := cur.bumpSpace
      if cur.atEnd then fail ⟨start, cur.pos⟩ .repetitionCountUnclosed
      if cur.sees '}' then pure (← low, none, cur)
      else do
        let min ← low
        let (high, cur) := cur.count
        pure (min, some (← high), cur)
    else do
      let n ← low
      pure (n, some n, cur)
  if cur.sees '}' then return (min, max, cur)
  else fail ⟨start, cur.pos⟩ .repetitionCountUnclosed

end Cursor

namespace ParserState

/-- Opens a group or sets flags, with the cursor at the opening parenthesis. -/
def openGroup (st : ParserState) : Except Fault ParserState :=
  let openSpan := st.cur.spanChar
  let cur := st.cur.bump.skipSpace
  let enter (kind : GroupKind) (cur : Cursor) (verbose : Bool) : ParserState :=
    { st with
      cur := { cur with verbose }
      stack := .group st.seq openSpan kind st.cur.verbose :: st.stack
      seq := ⟨cur.pos, []⟩ }
  match cur.lookAround? with
  | some stop => Cursor.fail ⟨openSpan.start, stop.pos⟩ .lookAround
  | none =>
      match (cur.take? ['?', 'P', '<']).or (cur.take? ['?', '<']) with
      | some named => do
          let (name, span, next) ← named.groupName st.names
          let index := st.groups + 1
          return { enter (.capture index (some name)) next st.cur.verbose with
            groups := index, names := (name, span) :: st.names }
      | none =>
          match cur.take? ['?'] with
          | some inner =>
              if inner.atEnd then Cursor.fail openSpan .groupUnclosed
              else do
                let (items, stop) ← inner.flagItems (inner.rest.length + 1) []
                let items := items.reverse
                let next := stop.bump
                let verbose := (flagState? .ignoreWhitespace items true).getD st.cur.verbose
                if stop.sees ')' then
                  if items.isEmpty then Cursor.fail cur.span .repetitionMissing
                  else return { st with
                    cur := { next with verbose }
                    seq := st.seq.push (.flags ⟨openSpan.start, next.pos⟩ items) }
                else return enter (.plain items) next verbose
          | none =>
              let index := st.groups + 1
              return { enter (.capture index none) cur st.cur.verbose with groups := index }

/-- Ends a branch, with the cursor at the bar. -/
def nextBranch (st : ParserState) : ParserState :=
  let branch := st.seq.toAst st.cur.pos
  let next := st.cur.bump
  let stack := match st.stack with
    | .branches start done :: stack => .branches start (branch :: done) :: stack
    | stack => .branches st.seq.start [branch] :: stack
  { st with cur := next, stack, seq := ⟨next.pos, []⟩ }

/-- Takes the branches read before off the stack and adds the last one. -/
def joinBranches (st : ParserState) : Ast × List Frame :=
  let last := st.seq.toAst st.cur.pos
  match st.stack with
  | .branches start done :: stack =>
      (.alternation ⟨start, st.cur.pos⟩ (last :: done).reverse, stack)
  | stack => (last, stack)

/-- Closes a group, with the cursor at the closing parenthesis. -/
def closeGroup (st : ParserState) : Except Fault ParserState :=
  let (body, stack) := st.joinBranches
  match stack with
  | .group outer span kind verbose :: stack =>
      let next := { st.cur.bump with verbose }
      .ok { st with
        cur := next, stack
        seq := outer.push (.group ⟨span.start, next.pos⟩ kind body) }
  | _ => Cursor.fail st.cur.spanChar .groupUnopened

/-- Takes the expression that a repetition operator applies to. -/
def popOperand (st : ParserState) : Except Fault (Ast × Sequence) :=
  match st.seq.parts with
  | [] | .empty _ :: _ | .flags .. :: _ => Cursor.fail st.cur.span .repetitionMissing
  | ast :: parts => .ok (ast, { st.seq with parts })

/-- Adds a repetition; a question mark at the cursor makes it lazy. -/
def pushRepetition (st : ParserState) (ast : Ast) (seq : Sequence) (min : Nat)
    (max : Option Nat) (cur : Cursor) : ParserState :=
  let lazy := cur.sees '?'
  let cur := if lazy then cur.bump else cur
  { st with cur, seq := seq.push (.repetition ⟨ast.span.start, cur.pos⟩ min max (!lazy) ast) }

def repeatUncounted (st : ParserState) (min : Nat) (max : Option Nat) :
    Except Fault ParserState := do
  let (ast, seq) ← st.popOperand
  return st.pushRepetition ast seq min max st.cur.bump

def repeatCounted (st : ParserState) : Except Fault ParserState := do
  let (ast, seq) ← st.popOperand
  let (min, max, cur) ← st.cur.countRange
  let next := st.pushRepetition ast seq min max cur.bumpSpace
  if max.any (· < min) then Cursor.fail ⟨st.cur.pos, next.cur.pos⟩ .repetitionCountInvalid
  else return next

/-- Adds an expression that ends where the cursor is. -/
def pushAst (st : ParserState) (read : Ast × Cursor) : ParserState :=
  { st with cur := read.2, seq := st.seq.push read.1 }

def step (st : ParserState) (c : Char) : Except Fault ParserState :=
  match c with
  | '(' => st.openGroup
  | ')' => st.closeGroup
  | '|' => .ok st.nextBranch
  | '[' => st.cur.bracketed.map st.pushAst
  | '?' => st.repeatUncounted 0 (some 1)
  | '*' => st.repeatUncounted 0 none
  | '+' => st.repeatUncounted 1 none
  | '{' => st.repeatCounted
  | '\\' => st.cur.escape.map st.pushAst
  | '.' => .ok (st.pushAst (.dot st.cur.spanChar, st.cur.bump))
  | '^' => .ok (st.pushAst (.assertion st.cur.spanChar .startLine, st.cur.bump))
  | '$' => .ok (st.pushAst (.assertion st.cur.spanChar .endLine, st.cur.bump))
  | c => .ok (st.pushAst (.literal ⟨st.cur.spanChar, c, false⟩, st.cur.bump))

/-- The tree for a pattern that has been read to its end. -/
def finish (st : ParserState) : Except Fault Ast :=
  match st.joinBranches with
  | (ast, []) => .ok ast
  | (_, .group _ span .. :: _) => Cursor.fail span .groupUnclosed
  | (ast, .branches .. :: _) => .ok ast

def run : (fuel : Nat) → ParserState → Except Fault Ast
  | 0, st => st.finish
  | fuel + 1, st =>
      let st := { st with cur := st.cur.skipSpace }
      match st.cur.char? with
      | none => st.finish
      | some c => (st.step c).bind (run fuel)

end ParserState

mutual

/-- The span at which a class is nested deeper than a limit, if it is. -/
def ClassSet.tooDeep? (limit : Nat) (depth : Nat) : ClassSet → Option Span
  | .bracketed span _ set =>
      if depth ≥ limit then some span else set.tooDeep? limit (depth + 1)
  | .union span items =>
      if depth ≥ limit then some span else ClassSet.anyTooDeep? limit (depth + 1) items
  | .binary span _ lhs rhs =>
      if depth ≥ limit then some span
      else (lhs.tooDeep? limit (depth + 1)).or (rhs.tooDeep? limit (depth + 1))
  | _ => none

def ClassSet.anyTooDeep? (limit : Nat) (depth : Nat) : List ClassSet → Option Span
  | [] => none
  | set :: rest => (set.tooDeep? limit depth).or (ClassSet.anyTooDeep? limit depth rest)

end

mutual

/-- The span at which a tree is nested deeper than a limit, if it is. -/
def Ast.tooDeep? (limit : Nat) (depth : Nat) : Ast → Option Span
  | .bracketed span _ set =>
      if depth ≥ limit then some span else set.tooDeep? limit (depth + 1)
  | .repetition span _ _ _ sub =>
      if depth ≥ limit then some span else sub.tooDeep? limit (depth + 1)
  | .group span _ sub =>
      if depth ≥ limit then some span else sub.tooDeep? limit (depth + 1)
  | .alternation span branches =>
      if depth ≥ limit then some span else Ast.anyTooDeep? limit (depth + 1) branches
  | .concat span parts =>
      if depth ≥ limit then some span else Ast.anyTooDeep? limit (depth + 1) parts
  | _ => none

def Ast.anyTooDeep? (limit : Nat) (depth : Nat) : List Ast → Option Span
  | [] => none
  | ast :: rest => (ast.tooDeep? limit depth).or (Ast.anyTooDeep? limit depth rest)

end

def nestLimit : Nat := 250

def Ast.parse (pattern : List Char) : Except Fault Ast := do
  let ast ← ParserState.run (pattern.length + 1)
    ⟨.start pattern false, [], ⟨.first, []⟩, 0, []⟩
  match ast.tooDeep? nestLimit 0 with
  | some span => .error ⟨.nestLimitExceeded nestLimit, span, none⟩
  | none => .ok ast

end Emend.Regex
