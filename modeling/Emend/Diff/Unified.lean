import Emend.Diff.Change

/-! # Unified diffs

A unified diff shows the changes of a text in hunks with some kept lines around them.
Changes that are close to each other share a hunk.
-/

namespace Emend.Diff

/-- How many kept lines are shown around changes. -/
def context : Nat := 3

/-- Consecutive parts of a difference that are shown together. -/
abbrev Hunk := List Change

/-- The last kept lines before the first change. -/
def trimHead : List Change → List Change
  | .same lines old new :: rest =>
      let n := lines.length - context
      .same (lines.drop n) (old + n) (new + n) :: rest
  | rest => rest

/-- The first kept lines behind the last change. -/
def trimTail : List Change → List Change
  | [] => []
  | [.same lines old new] => [.same (lines.take context) old new]
  | part :: rest => part :: trimTail rest

/-- Cuts a difference where many lines are kept between two changes: `current` is the
hunk being filled, last part first. -/
def cutHunks (current : Hunk) : List Change → List Hunk
  | [] =>
      match current with
      | [] | [.same ..] => []
      | parts => [parts.reverse]
  | .same lines old new :: rest =>
      if lines.length > 2 * context then
        let n := lines.length - context
        (.same (lines.take context) old new :: current).reverse
          :: cutHunks [.same (lines.drop n) (old + n) (new + n)] rest
      else cutHunks (.same lines old new :: current) rest
  | part :: rest => cutHunks (part :: current) rest

def hunks (parts : List Change) : List Hunk :=
  cutHunks [] (trimTail (trimHead parts))

/-- The range of lines from `start`, counted from zero, up to `stop`. A single line has
no length, and an empty range is placed behind the line before it. -/
def rangeText (start stop : Nat) : String :=
  let n := stop - start
  if n = 1 then toString (start + 1)
  else toString (if n = 0 then start else start + 1) ++ "," ++ toString n

/-- The line that says where a hunk lies in both texts. -/
def hunkHeader (hunk : Hunk) : String :=
  match hunk.head?, hunk.getLast? with
  | some first, some last =>
      "@@ -" ++ rangeText first.old (last.old + last.oldLines.length)
        ++ " +" ++ rangeText first.new (last.new + last.newLines.length) ++ " @@\n"
  | _, _ => ""

/-- A marked line of a hunk. A missing line end is supplied and pointed out. -/
def hunkLine (line : LineMark × List Char) : List Char :=
  line.1.sign :: line.2
    ++ (if isUnended line.2 then "\n\\ No newline at end of file\n".toList else [])

def hunkText (hunk : Hunk) : String :=
  hunkHeader hunk ++ String.ofList ((hunk.flatMap Change.marked).flatMap hunkLine)

/-- The unified diff of two texts under the name of a file; nothing if they are equal. -/
def unified (name old new : String) : String :=
  match hunks (between old new) with
  | [] => ""
  | hs =>
      "--- " ++ name ++ " (original)\n+++ " ++ name ++ " (patched)\n"
        ++ String.join (hs.map hunkText)

end Emend.Diff
