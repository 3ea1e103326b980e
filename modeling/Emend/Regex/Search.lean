import Emend.Regex.Program

/-! # Searching

A match is found by running all ways through a program side by side, one character at a
time, in the order in which they are preferred. Of two ways that reach the same
instruction at the same place the less preferred one is dropped, so that a run takes time
in proportion to the text. The first match in a text is the one that begins leftmost, and
of those the most preferred.
-/

namespace Emend.Regex

/-- The places recorded on one way through a program. -/
abbrev Slots := List (Nat × Nat)

/-- One way through a program: where it goes on, and what it recorded. -/
structure Thread where
  pc : Nat
  slots : Slots
  deriving Repr

/-- A place in a text as conditions see it: the characters on its two sides. -/
structure Point where
  before : Option Char
  after : Option Char
  deriving Repr

/-- Whether a character at one side of a place belongs to a word. -/
def wordSide (unicode : Bool) : Option Char → Bool
  | none => false
  | some c => if unicode then Unicode.isWordChar c else c.isAlphanum || c == '_'

/-- Whether a place with a word character before it, behind it, both or neither is as
asked for. -/
def WordEdge.holds (before after : Bool) : WordEdge → Bool
  | .boundary => before != after
  | .inside => before == after
  | .start => !before && after
  | .stop => before && !after
  | .startHalf => !before
  | .stopHalf => !after

/-- Whether a condition holds at a place. A line end of a carriage return and a line feed
has no line start or end inside. -/
def Look.holds (p : Point) : Look → Bool
  | .textStart => p.before.isNone
  | .textEnd => p.after.isNone
  | .lineStart false => p.before.isNone || p.before == some '\n'
  | .lineEnd false => p.after.isNone || p.after == some '\n'
  | .lineStart true =>
      p.before.isNone || p.before == some '\n'
        || (p.before == some '\r' && p.after != some '\n')
  | .lineEnd true =>
      p.after.isNone || p.after == some '\r'
        || (p.after == some '\n' && p.before != some '\r')
  | .word edge unicode => edge.holds (wordSide unicode p.before) (wordSide unicode p.after)

namespace Program

/-- The number of times that ways can be taken up at one place, given that each
instruction is looked at once. -/
def branching (p : Program) : Nat :=
  p.foldl (fun n inst => match inst with
    | .split targets => n + targets.length
    | _ => n + 1) 0

/-- Follows ways up to the instructions that take a character or accept. `seen` marks the
instructions already reached at this place, and `pos` counts the characters of the match
so far. -/
def follow (p : Program) (point : Point) (pos : Nat) :
    (fuel : Nat) → List Thread → (seen : Array Bool) → List Thread
  | 0, _, _ => []
  | _, [], _ => []
  | fuel + 1, ⟨pc, slots⟩ :: rest, seen =>
      if seen.getD pc true then follow p point pos fuel rest seen
      else
        let seen := seen.setIfInBounds pc true
        match p[pc]? with
        | some (.split targets) =>
            follow p point pos fuel (targets.map (⟨·, slots⟩) ++ rest) seen
        | some (.look look next) =>
            if look.holds point then follow p point pos fuel (⟨next, slots⟩ :: rest) seen
            else follow p point pos fuel rest seen
        | some (.save slot next) =>
            follow p point pos fuel (⟨next, (slot, pos) :: slots⟩ :: rest) seen
        | some _ => ⟨pc, slots⟩ :: follow p point pos fuel rest seen
        | none => follow p point pos fuel rest seen

def reach (p : Program) (point : Point) (pos : Nat) (threads : List Thread) : List Thread :=
  p.follow point pos (p.branching + threads.length + 1) threads (.replicate p.size false)

/-- The ways that take the next character, where they go on. -/
def advance (p : Program) (c : Char) : List Thread → List Thread
  | [] => []
  | ⟨pc, slots⟩ :: rest =>
      match p[pc]? with
      | some (.char d next) =>
          if c = d then ⟨next, slots⟩ :: advance p c rest else advance p c rest
      | some (.oneOf set next) =>
          if set.contains c then ⟨next, slots⟩ :: advance p c rest else advance p c rest
      | _ => advance p c rest

/-- The ways preferred to the first that accepts, and what that one recorded. -/
def cutAtAccept (p : Program) : List Thread → List Thread × Option Slots
  | [] => ([], none)
  | ⟨pc, slots⟩ :: rest =>
      match p[pc]? with
      | some .accept => ([], some slots)
      | _ =>
          let (kept, found) := cutAtAccept p rest
          (⟨pc, slots⟩ :: kept, found)

/-- The ways that lead on from a place, and the best match that ends there or earlier:
`best` is the one found before, which ways that went on were preferred to. -/
def settle (p : Program) (best : Option (Nat × Slots)) (point : Point) (pos : Nat)
    (threads : List Thread) : List Thread × Option (Nat × Slots) :=
  let (kept, found) := p.cutAtAccept (p.reach point pos threads)
  (kept, (found.map fun slots => (pos, slots)).or best)

/-- Runs ways over a text. The result is the length of the match and what was recorded
on the way to its end. -/
def run (p : Program) (best : Option (Nat × Slots)) (before : Option Char) (pos : Nat)
    (threads : List Thread) : (text : List Char) → Option (Nat × Slots)
  | [] => (p.settle best ⟨before, none⟩ pos threads).2
  | c :: rest =>
      let (kept, best) := p.settle best ⟨before, some c⟩ pos threads
      match p.advance c kept with
      | [] => best
      | next => run p best (some c) (pos + 1) next rest

/-- The match that begins where `text` begins: its length and what was recorded. -/
def matchAt (p : Program) (before : Option Char) (text : List Char) : Option (Nat × Slots) :=
  p.run none before 0 [⟨0, []⟩] text

end Program

/-- A match: its text, and what the program recorded while it was found. -/
structure Match where
  text : List Char
  slots : Slots
  deriving Repr

/-- The text of a group of a match. The whole match is group zero. -/
def Match.group? (m : Match) (index : Nat) : Option (List Char) :=
  if index = 0 then some m.text
  else do
    let start ← m.slots.lookup (2 * index)
    let stop ← m.slots.lookup (2 * index + 1)
    return (m.text.drop start).take (stop - start)

/-- A text cut into its successive matches and the characters between them. -/
inductive Segment where
  /-- A character outside of all matches. -/
  | kept (c : Char)
  /-- A match. -/
  | found (m : Match)
  deriving Repr

def Segment.text : Segment → List Char
  | .kept c => [c]
  | .found m => m.text

def Segment.isMatch : Segment → Bool
  | .kept _ => false
  | .found _ => true

namespace Program

/-- Cuts a text into its successive matches. They do not overlap, and an empty match
right behind another match does not count: `closed` says that a match has just ended.
The first `skip` characters belong to the match found last. -/
def segments (p : Program) (before : Option Char) (closed : Bool) (skip : Nat) :
    (text : List Char) → List Segment
  | [] =>
      match p.matchAt before [] with
      | some (_, slots) => if closed then [] else [.found ⟨[], slots⟩]
      | none => []
  | c :: rest =>
      match skip with
      | skip + 1 => segments p (some c) closed skip rest
      | 0 =>
          match p.matchAt before (c :: rest) with
          | none => .kept c :: segments p (some c) false 0 rest
          | some (0, slots) =>
              let step := .kept c :: segments p (some c) false 0 rest
              if closed then step else .found ⟨[], slots⟩ :: step
          | some (n + 1, slots) =>
              .found ⟨c :: rest.take n, slots⟩ :: segments p (some c) true n rest

end Program

end Emend.Regex
