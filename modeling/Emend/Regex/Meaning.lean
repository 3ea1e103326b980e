import Emend.Regex.Expr

/-! # The expression that a tree stands for

Flags are resolved from left to right: a flag holds until the end of its group. Without
the Unicode flag classes are made of ASCII characters, and a class that would have to
match other bytes is refused, because a match is always a text.
-/

namespace Emend.Regex

open Unicode (CharSet)

/-- The flags in force at a place of a pattern. -/
structure Settings where
  caseInsensitive : Bool
  multiLine : Bool
  dotMatchesNewLine : Bool
  swapGreed : Bool
  unicode : Bool
  crlf : Bool
  deriving Repr, DecidableEq

def Settings.apply (s : Settings) (items : List FlagItem) : Settings :=
  let state (flag : Flag) (old : Bool) : Bool := (flagState? flag items true).getD old
  { caseInsensitive := state .caseInsensitive s.caseInsensitive
    multiLine := state .multiLine s.multiLine
    dotMatchesNewLine := state .dotMatchesNewLine s.dotMatchesNewLine
    swapGreed := state .swapGreed s.swapGreed
    unicode := state .unicode s.unicode
    crlf := state .crlf s.crlf }

def asciiChars : CharSet := .ofRanges [(0, 127)]

def AsciiClass.chars (kind : AsciiClass) : CharSet :=
  CharSet.ofHex <| match kind with
    | .alnum => ["30-39 41-5a 61-7a"]
    | .alpha => ["41-5a 61-7a"]
    | .ascii => ["0-7f"]
    | .blank => ["9 20"]
    | .cntrl => ["0-1f 7f"]
    | .digit => ["30-39"]
    | .graph => ["21-7e"]
    | .lower => ["61-7a"]
    | .print => ["20-7e"]
    | .punct => ["21-2f 3a-40 5b-60 7b-7e"]
    | .space => ["9-d 20"]
    | .upper => ["41-5a"]
    | .word => ["30-39 41-5a 5f 61-7a"]
    | .xdigit => ["30-39 41-46 61-66"]

def PerlClass.chars (unicode : Bool) : PerlClass → CharSet
  | .digit => if unicode then Unicode.digits else AsciiClass.digit.chars
  | .space => if unicode then Unicode.spaces else AsciiClass.space.chars
  | .word => if unicode then Unicode.wordChars else AsciiClass.word.chars

/-- Adds the other cases of the members where case is ignored. -/
def Settings.fold (s : Settings) (set : CharSet) : CharSet :=
  if s.caseInsensitive then
    let closed := Unicode.Folding.close set
    if s.unicode then closed else closed.inter asciiChars
  else set

/-- Takes the complement of a set if asked to. Without the Unicode flag the complement
has bytes that are no characters. -/
def Settings.negate (s : Settings) (span : Span) (negated : Bool) (set : CharSet) :
    Except Fault CharSet :=
  if negated then
    if s.unicode then .ok set.complement else Cursor.fail span .invalidUtf8
  else .ok set

def Settings.property (s : Settings) (span : Span) (name : PropertyName) (negated : Bool) :
    Except Fault CharSet :=
  if !s.unicode then Cursor.fail span .unicodeNotAllowed
  else
    let (query, other) := match name with
      | .name text => (Unicode.Query.byName text, false)
      | .valued property value other => (Unicode.Query.byValue property value, other)
    match query with
    | .ok set => s.negate span (negated != other) (s.fold set)
    | .error .propertyNotFound => Cursor.fail span .propertyNotFound
    | .error .valueNotFound => Cursor.fail span .propertyValueNotFound

/-- The character that a literal in a class stands for. -/
def Settings.member (s : Settings) (lit : Literal) : Except Fault Char :=
  if s.unicode || lit.char.toNat < 128 then .ok lit.char
  else if lit.isByte then Cursor.fail lit.span .invalidUtf8
  else Cursor.fail lit.span .unicodeNotAllowed

def SetOp.combine : SetOp → CharSet → CharSet → CharSet
  | .intersection, a, b => a.inter b
  | .difference, a, b => a.diff b
  | .symmetricDifference, a, b => a.symmDiff b

mutual

def ClassSet.chars (s : Settings) : ClassSet → Except Fault CharSet
  | .empty _ => .ok .empty
  | .literal lit => (s.member lit).map .singleton
  | .range _ low high => do
      let low ← s.member low
      let high ← s.member high
      return .between low high
  | .ascii span kind negated => s.negate span negated (s.fold kind.chars)
  | .perl span kind negated => s.negate span negated (kind.chars s.unicode)
  | .property span name negated => s.property span name negated
  | .bracketed span negated set => do
      s.negate span negated (s.fold (← set.chars s))
  | .union _ items => ClassSet.unionChars s .empty items
  | .binary _ op lhs rhs => do
      let left ← lhs.chars s
      let right ← rhs.chars s
      return op.combine (s.fold left) (s.fold right)

/-- The members of any of several sets, and of a set found before. -/
def ClassSet.unionChars (s : Settings) (found : CharSet) :
    List ClassSet → Except Fault CharSet
  | [] => .ok found
  | item :: rest => do ClassSet.unionChars s (found.union (← item.chars s)) rest

end

def Settings.literal (s : Settings) (lit : Literal) : Except Fault Expr :=
  let c := lit.char
  if !s.unicode && lit.isByte && c.toNat ≥ 128 then Cursor.fail lit.span .invalidUtf8
  else if s.caseInsensitive && (s.unicode || c.toNat < 128)
      && Unicode.Folding.hasCase (.singleton c) then
    .ok (.ofSet (s.fold (.singleton c)))
  else .ok (.literal [c])

def Settings.dot (s : Settings) (span : Span) : Except Fault Expr :=
  if !s.unicode then Cursor.fail span .invalidUtf8
  else if s.dotMatchesNewLine then .ok (.oneOf CharSet.empty.complement)
  else if s.crlf then .ok (.oneOf (CharSet.ofRanges [(10, 10), (13, 13)]).complement)
  else .ok (.oneOf (CharSet.singleton '\n').complement)

def Settings.look (s : Settings) : Assertion → Look
  | .startLine => if s.multiLine then .lineStart s.crlf else .textStart
  | .endLine => if s.multiLine then .lineEnd s.crlf else .textEnd
  | .startText => .textStart
  | .endText => .textEnd
  | .wordBoundary => .word .boundary s.unicode
  | .notWordBoundary => .word .inside s.unicode
  | .wordStart => .word .start s.unicode
  | .wordEnd => .word .stop s.unicode
  | .wordStartHalf => .word .startHalf s.unicode
  | .wordEndHalf => .word .stopHalf s.unicode

mutual

/-- The expression for a tree, with the settings in force behind it. -/
def Ast.meaning (s : Settings) : Ast → Except Fault (Expr × Settings)
  | .empty _ => .ok (.empty, s)
  | .flags _ items => .ok (.empty, s.apply items)
  | .literal lit => do return (← s.literal lit, s)
  | .dot span => do return (← s.dot span, s)
  | .assertion _ kind => .ok (.look (s.look kind), s)
  | .perl span kind negated => do
      return (.ofSet (← s.negate span negated (kind.chars s.unicode)), s)
  | .property span name negated => do return (.ofSet (← s.property span name negated), s)
  | .bracketed span negated set => do
      return (.ofSet (← s.negate span negated (s.fold (← set.chars s))), s)
  | .repetition _ min max greedy sub => do
      let (e, s) ← sub.meaning s
      return (.repetition min max (greedy != s.swapGreed) e, s)
  | .group _ kind sub =>
      match kind with
      | .capture index _ => do
          let (e, _) ← sub.meaning s
          return (.capture index e, s)
      | .plain items => do
          let (e, _) ← sub.meaning (s.apply items)
          return (e, s)
  | .alternation _ branches => do
      let (es, s) ← Ast.meanings s branches
      return (.alternatives es, s)
  | .concat _ parts => do
      let (es, s) ← Ast.meanings s parts
      return (.sequence es, s)

def Ast.meanings (s : Settings) : List Ast → Except Fault (List Expr × Settings)
  | [] => .ok ([], s)
  | ast :: rest => do
      let (e, s) ← ast.meaning s
      let (es, s) ← Ast.meanings s rest
      return (e :: es, s)

end

mutual

/-- The names of the groups of a tree with their numbers. -/
def Ast.groupNames : Ast → List (String × Nat)
  | .group _ (.capture index (some name)) sub => (name, index) :: sub.groupNames
  | .group _ _ sub => sub.groupNames
  | .repetition _ _ _ _ sub => sub.groupNames
  | .alternation _ asts | .concat _ asts => Ast.allGroupNames asts
  | _ => []

def Ast.allGroupNames : List Ast → List (String × Nat)
  | [] => []
  | ast :: rest => ast.groupNames ++ Ast.allGroupNames rest

end

end Emend.Regex
