import Emend.Regex.Meaning

/-! # Programs

An expression is compiled to instructions that refer to each other by index. Where an
instruction has several successors, the earlier ones are preferred. The code of an
expression starts at its first instruction and ends by going on at a given index.
-/

namespace Emend.Regex

open Unicode (CharSet)

inductive Inst where
  /-- Takes the given character. -/
  | char (c : Char) (next : Nat)
  /-- Takes any member of a set. -/
  | oneOf (set : CharSet) (next : Nat)
  /-- Goes on at each of the targets, the preferred one first. -/
  | split (targets : List Nat)
  /-- Goes on if the condition holds here. -/
  | look (look : Look) (next : Nat)
  /-- Records the place in a slot. -/
  | save (slot : Nat) (next : Nat)
  /-- Ends a match. -/
  | accept
  deriving Repr

namespace Expr

/-- Whether every match of an expression is known to take a character. -/
def takesChars (e : Expr) : Bool :=
  match e.minLength with
  | some n => 0 < n
  | none => false

/-- The number of instructions for a repetition whose body has `size` of them and is
known to take characters or not. -/
def repeatedSize (size : Nat) (takes : Bool) : (min : Nat) → (max : Option Nat) → Nat
  | 0, none => if takes then size + 1 else size + 2
  | min + 1, none => (min + 1) * size + 1
  | min, some max => if max - min + min = 0 then 1 else min * size + (max - min) * (size + 1)

mutual

def size : Expr → Nat
  | .empty => 1
  | .literal chars => Nat.max 1 chars.length
  | .oneOf _ => 1
  | .look _ => 1
  | .repeated min max _ sub => repeatedSize sub.size sub.takesChars min max
  | .capture _ sub => sub.size + 2
  | .concat parts => Nat.max 1 (sizeAll parts)
  | .alternation branches => 1 + sizeAll branches

def sizeAll : List Expr → Nat
  | [] => 0
  | e :: rest => e.size + sizeAll rest

end

def literalCode (base next : Nat) : List Char → List Inst
  | [] => []
  | [c] => [.char c next]
  | c :: rest => .char c (base + 1) :: literalCode (base + 1) next rest

/-- A choice between another round and going on. -/
def again (greedy : Bool) (round next : Nat) : Inst :=
  .split (if greedy then [round, next] else [next, round])

/-- The code for `n` rounds of a body with `size` instructions. -/
def rounds (body : (base next : Nat) → List Inst) (size : Nat) :
    (n base next : Nat) → List Inst
  | 0, _, _ => []
  | 1, base, next => body base next
  | n + 2, base, next =>
      body base (base + size) ++ rounds body size (n + 1) (base + size) next

/-- The code for up to `n` rounds, each of which may be the last. -/
def optionalRounds (greedy : Bool) (body : (base next : Nat) → List Inst) (size : Nat)
    (stop : Nat) : (n base : Nat) → List Inst
  | 0, _ => []
  | 1, base => again greedy (base + 1) stop :: body (base + 1) stop
  | n + 2, base =>
      again greedy (base + 1) stop :: body (base + 1) (base + 1 + size)
        ++ optionalRounds greedy body size stop (n + 1) (base + 1 + size)

/-- The code for one round or more. -/
def oneOrMore (greedy : Bool) (body : (base next : Nat) → List Inst) (size base next : Nat) :
    List Inst :=
  body base (base + size) ++ [again greedy base next]

/-- The code for a repetition. A body that may be empty is not entered from the choice
that ends its first round, so that an empty round ends the repetition. -/
def repeatedCode (greedy takes : Bool) (body : (base next : Nat) → List Inst) (size : Nat)
    (base next : Nat) : (min : Nat) → (max : Option Nat) → List Inst
  | 0, none =>
      if takes then again greedy (base + 1) next :: body (base + 1) base
      else again greedy (base + 1) next :: oneOrMore greedy body size (base + 1) next
  | 1, none => oneOrMore greedy body size base next
  | min + 2, none =>
      let last := base + (min + 1) * size
      rounds body size (min + 1) base last ++ oneOrMore greedy body size last next
  | min, some max =>
      if max - min + min = 0 then [.split [next]]
      else if max - min = 0 then rounds body size min base next
      else
        let options := base + min * size
        rounds body size min base options
          ++ optionalRounds greedy body size next (max - min) options

mutual

/-- The code for an expression from index `base` on, which goes on at `next`. -/
def code (base next : Nat) : Expr → List Inst
  | .empty => [.split [next]]
  | .literal chars => if chars.isEmpty then [.split [next]] else literalCode base next chars
  | .oneOf set => [.oneOf set next]
  | .look cond => [.look cond next]
  | .repeated min max greedy sub =>
      repeatedCode greedy sub.takesChars (fun base next => sub.code base next) sub.size
        base next min max
  | .capture index sub =>
      .save (2 * index) (base + 1) :: sub.code (base + 1) (base + 1 + sub.size)
        ++ [.save (2 * index + 1) next]
  | .concat parts =>
      if parts.isEmpty then [.split [next]] else sequenceCode base next parts
  | .alternation branches =>
      .split (starts (base + 1) branches) :: branchCode (base + 1) next branches

def sequenceCode (base next : Nat) : List Expr → List Inst
  | [] => []
  | [e] => e.code base next
  | e :: rest => e.code base (base + e.size) ++ sequenceCode (base + e.size) next rest

/-- The code for expressions that all go on at the same index. -/
def branchCode (base next : Nat) : List Expr → List Inst
  | [] => []
  | e :: rest => e.code base next ++ branchCode (base + e.size) next rest

def starts (base : Nat) : List Expr → List Nat
  | [] => []
  | e :: rest => base :: starts (base + e.size) rest

end

end Expr

/-- A compiled expression. -/
abbrev Program := Array Inst

/-- The program for an expression: its code, and behind it the end of the match. -/
def Program.ofExpr (e : Expr) : Program :=
  (e.code 0 e.size ++ [Inst.accept]).toArray

/-- The instruction that goes on alike and records nothing. -/
def Inst.bare : Inst → Inst
  | .save _ next => .split [next]
  | inst => inst

/-- The program for searches that ask for no more than the places of matches. -/
def Program.bare (p : Program) : Program := p.map Inst.bare

end Emend.Regex
