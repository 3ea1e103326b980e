import Emend.Regex.Program
import Emend.Regex.Footprint.Set
import Emend.Regex.Footprint.Words

/-! # The footprint of an expression

The automaton for an expression is put together from those of its parts. What follows a
part is reached from its end; if that is a choice, the way there is one more of its links.
`Expr.fits` says whether neither direction exceeds a limit.
-/

namespace Emend.Regex

namespace Expr

mutual

/-- Whether no part is a set for which the numbers of the states before it matter. -/
def isUniform : Expr → Bool
  | .oneOf set => set.isAscii
  | .repeated _ _ _ sub | .capture _ sub => sub.isUniform
  | .concat parts => areUniform parts
  | .alternation branches => areUniform branches
  | .empty | .literal _ | .look _ => true

def areUniform : List Expr → Bool
  | [] => true
  | e :: rest => e.isUniform && areUniform rest

end

mutual

/-- Whether the automaton ends in a choice between another round and going on. -/
def endsInChoice (d : Direction) : Expr → Bool
  | .repeated min max _ sub =>
      match max with
      | none => min != 0 || sub.takesChars
      | some max => min == max && sub.endsInChoice d
  | .capture _ sub => d == .backward && sub.endsInChoice d
  | .concat parts => lastEndsInChoice d parts
  | _ => false

/-- Whether the part of a sequence that is read last ends in a choice. -/
def lastEndsInChoice (d : Direction) : List Expr → Bool
  | [] => false
  | [e] => e.endsInChoice d
  | e :: rest => if d = .forward then lastEndsInChoice d rest else e.endsInChoice d

end

/-- The bytes for the way from the end of an expression to what follows it. -/
def joint (d : Direction) (e : Expr) : Nat :=
  if e.endsInChoice d then Footprint.linkSize else 0

mutual

/-- Whether every match starts where the reading starts: at the start of a text, or at its
end when it is read backward. -/
def isAnchored (d : Direction) : Expr → Bool
  | .look cond => if d = .forward then cond == .textStart else cond == .textEnd
  | .repeated min _ _ sub => min != 0 && sub.isAnchored d
  | .capture _ sub => sub.isAnchored d
  | .concat parts => (sequenceAnchored d parts).1
  | .alternation branches => areAnchored d branches
  | _ => false

/-- Whether a part of a sequence is anchored before any character can be taken, and
whether none can be taken at all. -/
def sequenceAnchored (d : Direction) : List Expr → Bool × Bool
  | [] => (false, true)
  | e :: rest =>
      let (anchored, still) := sequenceAnchored d rest
      let here := e.isAnchored d
      let stays := e.maxLength == some 0
      (if d = .forward then here || (stays && anchored) else anchored || (still && here),
        stays && still)

def areAnchored (d : Direction) : List Expr → Bool
  | [] => true
  | e :: rest => e.isAnchored d && areAnchored d rest

end

/-- The bytes of a text in the order in which they are read. -/
def word (d : Direction) (chars : List Char) : Word :=
  let bytes := chars.flatMap String.utf8EncodeChar
  if d = .forward then bytes else bytes.reverse

/-- The words of an alternation, if all branches are texts. -/
def words? (d : Direction) : List Expr → Option (List Word)
  | [] => some []
  | .literal chars :: rest => (words? d rest).map (word d chars :: ·)
  | _ => none

end Expr

namespace Footprint

/-- Adds a repetition of a body that `grow` adds. `uniform` says whether each round takes
as much room as any other, `takes` whether each round is known to take characters, `joint`
is what the way behind a round takes. -/
def addRepeated (limit : Nat) (uniform takes : Bool) (joint : Nat)
    (grow : Footprint → Footprint) (f : Footprint) (min : Nat) (max : Option Nat) : Footprint :=
  let times (step : Footprint → Footprint) (n : Nat) (f : Footprint) : Footprint :=
    if uniform then scaled step n f else rounds limit step n f
  let exactly (n : Nat) (f : Footprint) : Footprint :=
    match n with
    | 0 => f.add 1 0
    | n + 1 => grow (times (fun f => (grow f).add 0 joint) n f)
  match min, max with
  | 0, some 1 => (grow (f.add 1 0)).add 1 (joint + 2 * linkSize)
  | 0, none =>
      if takes then (grow (f.add 1 0)).add 0 (joint + linkSize)
      else (grow f).add 3 (joint + 4 * linkSize)
  | min, none => (exactly min f).add 1 (joint + linkSize)
  | min, some max =>
      if min = max then exactly min f
      else
        let needed := (exactly min f).add 1 (if min = 0 then 0 else joint)
        times (fun f => (grow (f.add 1 0)).add 0 (joint + 2 * linkSize)) (max - min) needed

end Footprint

namespace Expr

mutual

/-- Adds the states for an expression. Beyond the limit the count may be too low. -/
def grow (limit : Nat) (d : Direction) (f : Footprint) : Expr → Footprint
  | .empty | .look _ => f.add 1 0
  | .literal chars => f.add (Nat.max 1 (word d chars).length) 0
  | .oneOf set => if limit < f.bytes then f else f.addSet d set
  | .repeated min max _ sub =>
      f.addRepeated limit sub.isUniform sub.takesChars (sub.joint d)
        (fun f => sub.grow limit d f) min max
  | .capture _ sub =>
      if d = .forward then (sub.grow limit d (f.add 1 0)).add 1 (sub.joint d)
      else sub.grow limit d f
  | .concat parts => if parts.isEmpty then f.add 1 0 else growSequence limit d f parts
  | .alternation branches =>
      match words? d branches with
      | some words => f.addChoice words
      | none =>
          match branches with
          | first :: second :: rest =>
              let f := (first.grow limit d f).add 0 (first.joint d + Footprint.linkSize)
              let f := (second.grow limit d f).add 2 (second.joint d + Footprint.linkSize)
              growBranches limit d f rest
          | branches => growBranches limit d (f.add 2 0) branches

def growSequence (limit : Nat) (d : Direction) (f : Footprint) : List Expr → Footprint
  | [] => f
  | e :: rest =>
      if d = .forward then
        let f := e.grow limit d f
        growSequence limit d (if rest.isEmpty then f else f.add 0 (e.joint d)) rest
      else
        let f := growSequence limit d f rest
        e.grow limit d (match rest with
          | [] => f
          | other :: _ => f.add 0 (other.joint d))

/-- Adds the states for branches and the ways to them. -/
def growBranches (limit : Nat) (d : Direction) (f : Footprint) : List Expr → Footprint
  | [] => f
  | e :: rest =>
      growBranches limit d
        ((e.grow limit d f).add 0 (e.joint d + Footprint.linkSize)) rest

end

/-- The automaton for an expression: the way to where a match starts, the expression with
its match recorded, and the end. -/
def footprint (limit : Nat) (d : Direction) (e : Expr) : Footprint :=
  let start : Footprint :=
    if e.isAnchored d then ⟨1, 0⟩
    else ⟨3, Footprint.rangeSize + 2 * Footprint.linkSize⟩
  let whole := Expr.capture 0 e
  (whole.grow limit d start).add 1 (whole.joint d)

def fits (limit : Nat) (e : Expr) : Bool :=
  (e.footprint limit .forward).bytes ≤ limit && (e.footprint limit .backward).bytes ≤ limit

end Expr

end Emend.Regex
