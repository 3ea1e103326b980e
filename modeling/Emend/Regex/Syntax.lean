/-! # Syntax trees of regular expressions

A tree keeps the span of the pattern that each of its parts was read from, because
faults found later are shown under that span.
-/

namespace Emend.Regex

/-- A place in a pattern: the number of characters before it, and its line and column,
both counted from one. -/
structure Position where
  offset : Nat
  line : Nat
  column : Nat
  deriving Repr, DecidableEq, Inhabited

namespace Position

def first : Position := ⟨0, 1, 1⟩

def advance (p : Position) (c : Char) : Position :=
  if c = '\n' then ⟨p.offset + 1, p.line + 1, 1⟩ else ⟨p.offset + 1, p.line, p.column + 1⟩

end Position

/-- A part of a pattern, from its first place to the place behind it. -/
structure Span where
  start : Position
  stop : Position
  deriving Repr, DecidableEq, Inhabited

def Span.point (p : Position) : Span := ⟨p, p⟩

/-- A setting that a pattern can switch on or off for a part of itself. -/
inductive Flag where
  /-- `i`: letters match without regard to case. -/
  | caseInsensitive
  /-- `m`: line anchors match at every line. -/
  | multiLine
  /-- `s`: the dot matches line feeds too. -/
  | dotMatchesNewLine
  /-- `U`: repetitions are lazy unless marked. -/
  | swapGreed
  /-- `u`: classes and boundaries follow Unicode. -/
  | unicode
  /-- `R`: carriage returns end lines too. -/
  | crlf
  /-- `x`: white space and comments in the pattern are skipped. -/
  | ignoreWhitespace
  deriving Repr, DecidableEq

/-- One character of a flag list: a flag, or the dash that negates the flags behind it. -/
structure FlagItem where
  span : Span
  flag : Option Flag
  deriving Repr, DecidableEq

/-- What a flag list says about a flag: the value it sets, if it names the flag. -/
def flagState? (flag : Flag) : (items : List FlagItem) → (value : Bool) → Option Bool
  | [], _ => none
  | item :: rest, value =>
      match item.flag with
      | none => flagState? flag rest false
      | some f => if f = flag then some value else flagState? flag rest value

/-- A single character of a pattern, however it is written. -/
structure Literal where
  span : Span
  char : Char
  /-- Whether it is written as an escape of exactly two hexadecimal digits, which stands
  for a byte where Unicode is off. -/
  isByte : Bool
  deriving Repr, DecidableEq

inductive PerlClass where
  /-- Decimal digits. -/
  | digit
  /-- White space. -/
  | space
  /-- The characters that words are made of. -/
  | word
  deriving Repr, DecidableEq

/-- The classes of ASCII characters with a bracketed name. -/
inductive AsciiClass where
  | alnum | alpha | ascii | blank | cntrl | digit | graph | lower | print | punct | space
  | upper | word | xdigit
  deriving Repr, DecidableEq

/-- The text between the braces of a property escape. -/
inductive PropertyName where
  /-- A single name. -/
  | name (text : String)
  /-- A property with its value, or with any other value than that. -/
  | valued (property value : String) (other : Bool)
  deriving Repr, DecidableEq

inductive SetOp where
  | intersection | difference | symmetricDifference
  deriving Repr, DecidableEq

inductive ClassSet where
  /-- Nothing between two operators. -/
  | empty (span : Span)
  /-- One character. -/
  | literal (lit : Literal)
  /-- All characters from the first to the last. -/
  | range (span : Span) (first last : Literal)
  /-- A named class of ASCII characters. -/
  | ascii (span : Span) (kind : AsciiClass) (negated : Bool)
  /-- A class with a one-letter escape. -/
  | perl (span : Span) (kind : PerlClass) (negated : Bool)
  /-- A Unicode property. -/
  | property (span : Span) (name : PropertyName) (negated : Bool)
  /-- A class inside the class. -/
  | bracketed (span : Span) (negated : Bool) (set : ClassSet)
  /-- The members of any of several items. -/
  | union (span : Span) (items : List ClassSet)
  /-- Two sets combined by an operator. -/
  | binary (span : Span) (op : SetOp) (lhs rhs : ClassSet)

def ClassSet.span : ClassSet → Span
  | .empty span | .range span .. | .ascii span .. | .perl span .. | .property span ..
  | .bracketed span .. | .union span _ | .binary span .. => span
  | .literal lit => lit.span

/-- A condition on the place of a match that takes no characters. -/
inductive Assertion where
  | startLine | endLine | startText | endText
  | wordBoundary | notWordBoundary
  | wordStart | wordEnd | wordStartHalf | wordEndHalf
  deriving Repr, DecidableEq

/-- What a pair of parentheses does besides grouping. -/
inductive GroupKind where
  /-- It records what it matched under a number and perhaps a name. -/
  | capture (index : Nat) (name : Option String)
  /-- It sets flags for its contents. -/
  | plain (flags : List FlagItem)
  deriving Repr, DecidableEq

/-- A regular expression as written. -/
inductive Ast where
  /-- The empty expression. -/
  | empty (span : Span)
  /-- Flags set for the rest of the group. -/
  | flags (span : Span) (items : List FlagItem)
  /-- One character. -/
  | literal (lit : Literal)
  /-- Any character, perhaps but a line end. -/
  | dot (span : Span)
  /-- A condition on the place. -/
  | assertion (span : Span) (kind : Assertion)
  /-- A class with a one-letter escape. -/
  | perl (span : Span) (kind : PerlClass) (negated : Bool)
  /-- A Unicode property. -/
  | property (span : Span) (name : PropertyName) (negated : Bool)
  /-- A bracketed class. -/
  | bracketed (span : Span) (negated : Bool) (set : ClassSet)
  /-- An expression `min` times or more, up to `max` times if there is one. -/
  | repetition (span : Span) (min : Nat) (max : Option Nat) (greedy : Bool) (sub : Ast)
  /-- A group in parentheses. -/
  | group (span : Span) (kind : GroupKind) (sub : Ast)
  /-- The first branch that matches. -/
  | alternation (span : Span) (branches : List Ast)
  /-- One expression after the other. -/
  | concat (span : Span) (parts : List Ast)

def Ast.span : Ast → Span
  | .empty span | .flags span _ | .dot span | .assertion span _ | .perl span ..
  | .property span .. | .bracketed span .. | .repetition span .. | .group span ..
  | .alternation span _ | .concat span _ => span
  | .literal lit => lit.span

end Emend.Regex
