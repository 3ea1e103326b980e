import Emend.Regex.Parser
import Emend.Unicode.Folding

/-! # Regular expressions

The meaning of a pattern, with flags and classes resolved: sets of characters, texts,
conditions, groups and repetitions. Expressions are built in a simplified form: sequences
and alternations are flat, texts side by side are one text, alternatives that all are single
characters or all are sets are one set, and what all alternatives begin with stands before
them.
-/

namespace Emend.Regex

open Unicode (CharSet)

/-- Where a place lies with regard to a word. -/
inductive WordEdge where
  /-- Between a word character and another, or an end of the text. -/
  | boundary
  /-- Anywhere else. -/
  | inside
  /-- Before the first character of a word. -/
  | start
  /-- Behind the last character of a word. -/
  | stop
  /-- Not behind a word character. -/
  | startHalf
  /-- Not before a word character. -/
  | stopHalf
  deriving Repr, DecidableEq

/-- A condition on a place in a text. -/
inductive Look where
  /-- The text begins here. -/
  | textStart
  /-- The text ends here. -/
  | textEnd
  /-- A line begins here; with `crlf`, carriage returns end lines too. -/
  | lineStart (crlf : Bool)
  /-- A line ends here; with `crlf`, carriage returns end lines too. -/
  | lineEnd (crlf : Bool)
  /-- The place lies so with regard to words, of Unicode or of ASCII characters. -/
  | word (edge : WordEdge) (unicode : Bool)
  deriving Repr, DecidableEq

inductive Expr where
  /-- The empty text. -/
  | empty
  /-- A text. -/
  | literal (chars : List Char)
  /-- Any member of a set; with the empty set, nothing. -/
  | oneOf (set : CharSet)
  /-- A condition on the place. -/
  | look (look : Look)
  /-- An expression `min` times or more, up to `max` times if there is one. A greedy
  repetition prefers more rounds, a lazy one fewer. -/
  | repeated (min : Nat) (max : Option Nat) (greedy : Bool) (sub : Expr)
  /-- An expression whose match is recorded under a number. -/
  | capture (index : Nat) (sub : Expr)
  /-- One expression after the other. -/
  | concat (parts : List Expr)
  /-- One of several expressions; earlier ones are preferred. -/
  | alternation (branches : List Expr)
  deriving BEq, Repr

namespace Expr

mutual

/-- A lower bound of the lengths of matches; none if nothing can be said. -/
def minLength : Expr → Option Nat
  | .empty | .look _ => some 0
  | .literal chars => some chars.length
  | .oneOf set => if set.ranges.isEmpty then none else some 1
  | .repeated min _ _ sub => sub.minLength.map (· * min)
  | .capture _ sub => sub.minLength
  | .concat parts => sumMin parts
  | .alternation branches => leastMin branches

def sumMin : List Expr → Option Nat
  | [] => some 0
  | e :: rest => do return (← e.minLength) + (← sumMin rest)

def leastMin : List Expr → Option Nat
  | [] => none
  | [e] => e.minLength
  | e :: rest => do return min (← e.minLength) (← leastMin rest)

end

mutual

/-- An upper bound of the lengths of matches, if there is one. -/
def maxLength : Expr → Option Nat
  | .empty | .look _ => some 0
  | .literal chars => some chars.length
  | .oneOf set => if set.ranges.isEmpty then none else some 1
  | .repeated _ max _ sub => do return (← sub.maxLength) * (← max)
  | .capture _ sub => sub.maxLength
  | .concat parts => sumMax parts
  | .alternation branches => greatestMax branches

def sumMax : List Expr → Option Nat
  | [] => some 0
  | e :: rest => do return (← e.maxLength) + (← sumMax rest)

def greatestMax : List Expr → Option Nat
  | [] => none
  | [e] => e.maxLength
  | e :: rest => do return max (← e.maxLength) (← greatestMax rest)

end

/-- The members of a set, written as a text if there is only one. -/
def ofSet (set : CharSet) : Expr :=
  match set.onlyMember? with
  | some c => .literal [c]
  | none => .oneOf set

/-- A repetition. Repeating what can only be empty once is as good as any number of times,
and no repetition is left where there is exactly one round or none. -/
def repetition (min : Nat) (max : Option Nat) (greedy : Bool) (sub : Expr) : Expr :=
  let onlyEmpty := sub.maxLength == some 0
  let min := if onlyEmpty then Nat.min min 1 else min
  let max := if onlyEmpty then some ((max.map (Nat.min · 1)).getD 1) else max
  if max == some 0 then .empty
  else if min == 1 && max == some 1 then sub
  else .repeated min max greedy sub

/-- The parts that a member of a sequence contributes to it. -/
def sequenceParts : Expr → List Expr
  | .empty => []
  | .concat parts => parts
  | e => [e]

/-- Joins texts that stand side by side. -/
def joinLiterals : List Expr → List Expr
  | [] => []
  | .literal a :: rest =>
      match joinLiterals rest with
      | .literal b :: joined => .literal (a ++ b) :: joined
      | joined => .literal a :: joined
  | e :: rest => e :: joinLiterals rest

/-- A sequence in simplified form. -/
def sequence (parts : List Expr) : Expr :=
  match joinLiterals (parts.flatMap sequenceParts) with
  | [] => .empty
  | [e] => e
  | parts => .concat parts

def char? : Expr → Option Char
  | .literal [c] => some c
  | _ => none

def set? : Expr → Option CharSet
  | .oneOf set => some set
  | _ => none

/-- The set of all alternatives if each is a single character, or if each is a set. -/
def unionSet? (branches : List Expr) : Option CharSet :=
  match branches.mapM char? with
  | some chars => some (.ofRanges (chars.map fun c => (c.toNat, c.toNat)))
  | none => (branches.mapM set?).map fun sets => .ofRanges (sets.flatMap CharSet.ranges)

/-- What two sequences begin with alike. -/
def commonParts : List Expr → List Expr → List Expr
  | a :: as, b :: bs => if a == b then a :: commonParts as bs else []
  | _, _ => []

/-- What all of several sequences begin with; nothing if one of them is no sequence. -/
def sharedParts : List Expr → List Expr
  | [] => []
  | [.concat parts] => parts
  | .concat parts :: rest => commonParts parts (sharedParts rest)
  | _ => []

/-- An alternation whose branches do not begin alike. -/
def choice (branches : List Expr) : Expr :=
  match branches with
  | [] => .oneOf .empty
  | [e] => e
  | branches =>
      match unionSet? branches with
      | some set => ofSet set
      | none => .alternation branches

/-- The alternatives that a branch contributes. -/
def choiceBranches : Expr → List Expr
  | .alternation branches => branches
  | e => [e]

/-- What is left of a sequence behind its first parts. -/
def dropParts (n : Nat) : Expr → Expr
  | .concat parts => sequence (parts.drop n)
  | e => e

/-- An alternation in simplified form. What all branches begin with is matched before the
choice between them; `fuel` bounds how often that is repeated. -/
def alternativesWithin : (fuel : Nat) → List Expr → Expr
  | 0, branches => choice (branches.flatMap choiceBranches)
  | fuel + 1, branches =>
      let branches := branches.flatMap choiceBranches
      let shared := if branches.length < 2 then [] else sharedParts branches
      if shared.isEmpty || (unionSet? branches).isSome then choice branches
      else
        let rests := branches.map (dropParts shared.length)
        sequence (shared ++ [alternativesWithin fuel rests])

/-- An alternation in simplified form. Each round takes parts off the first branch. -/
def alternatives (branches : List Expr) : Expr :=
  match branches.flatMap choiceBranches with
  | .concat parts :: _ => alternativesWithin parts.length branches
  | _ => alternativesWithin 0 branches

end Expr

end Emend.Regex
