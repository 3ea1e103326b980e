import Emend.Diff.Script

/-! # Compacting edit scripts

A script may be changed without changing where it leads: an insertion slides over kept
lines that repeat it, deletions and insertions side by side change places, and edits of
the same kind that meet become one. Every deletion and then every insertion is moved as
far up as it goes and then as far down as it goes.
-/

namespace Emend.Diff

variable {α : Type} [DecidableEq α]

/-- A script seen from one of its edits. The edits before it come last first. -/
structure Focus (α : Type) where
  before : List (Edit α)
  this : Edit α
  after : List (Edit α)

namespace Focus

/-- Adds kept lines in front of the edits that follow. -/
def keepAfter (lines : List α) (old new : Nat) : List (Edit α) → List (Edit α)
  | ⟨.keep, more, o, n⟩ :: rest =>
      ⟨.keep, lines ++ more, o - lines.length, n - lines.length⟩ :: rest
  | rest => ⟨.keep, lines, old, new⟩ :: rest

/-- Adds kept lines behind the edits that come before, last first. -/
def keepBefore (lines : List α) (old new : Nat) : List (Edit α) → List (Edit α)
  | ⟨.keep, more, o, n⟩ :: rest => ⟨.keep, more ++ lines, o, n⟩ :: rest
  | rest => ⟨.keep, lines, old, new⟩ :: rest

/-- An insertion moved up over the last `n` kept lines before it, which repeat its end. -/
def slideUp (this : Edit α) (shared : List α) : Edit α :=
  let n := shared.length
  { this with
    lines := shared ++ this.lines.take (this.lines.length - n)
    old := this.old - n
    new := this.new - n }

/-- An insertion moved down over the first kept lines behind it, which repeat its start. -/
def slideDown (this : Edit α) (shared : List α) : Edit α :=
  let n := shared.length
  { this with
    lines := this.lines.drop n ++ shared
    old := this.old + n
    new := this.new + n }

/-- Moves the edit up as far as it goes. -/
def up : (fuel : Nat) → Focus α → Focus α
  | 0, f => f
  | fuel + 1, f =>
      match f.before with
      | [] => f
      | prev :: before =>
          match f.this.kind, prev.kind with
          | .keep, _ => f
          | kind, .keep =>
              let shared := if kind = .insert then commonSuffix prev.lines f.this.lines else []
              let left := prev.lines.take (prev.lines.length - shared.length)
              let before := if left.isEmpty then before else { prev with lines := left } :: before
              if shared.isEmpty then
                if prev.lines.isEmpty then up fuel { f with before } else f
              else
                up fuel {
                  before
                  this := slideUp f.this shared
                  after := keepAfter shared (prev.oldStop - shared.length)
                    (f.this.newStop - shared.length) f.after }
          | kind, kind' =>
              if kind = kind' then
                up fuel { f with
                  before
                  this := { prev with lines := prev.lines ++ f.this.lines } }
              else up fuel { f with before, after := prev :: f.after }

/-- Moves the edit down as far as it goes. -/
def down : (fuel : Nat) → Focus α → Focus α
  | 0, f => f
  | fuel + 1, f =>
      match f.after with
      | [] => f
      | next :: after =>
          match f.this.kind, next.kind with
          | .keep, _ => f
          | kind, .keep =>
              let shared := if kind = .insert then commonPrefix next.lines f.this.lines else []
              let n := shared.length
              let left := next.lines.drop n
              let after := if left.isEmpty then after
                else { next with lines := left, old := next.old + n, new := next.new + n } :: after
              if shared.isEmpty then
                if next.lines.isEmpty then down fuel { f with after } else f
              else
                down fuel {
                  before := keepBefore shared next.old f.this.new f.before
                  this := slideDown f.this shared
                  after }
          | kind, kind' =>
              if kind = kind' then
                down fuel { f with
                  after
                  this := { f.this with lines := f.this.lines ++ next.lines } }
              else down fuel { f with before := next :: f.before, after }

/-- A bound on how often an edit can move past others. -/
def room (edits : List (Edit α)) : Nat :=
  edits.foldl (fun n e => n + e.lines.length + 1) 1

end Focus

/-- Moves every edit of a kind up and then down, from the first on: `before` holds the
edits that have been dealt with, last first. -/
def settle (kind : EditKind) : (fuel : Nat) → (before after : List (Edit α)) → List (Edit α)
  | 0, before, after => before.reverse ++ after
  | _, before, [] => before.reverse
  | fuel + 1, before, this :: after =>
      if this.kind = kind then
        let upper := Focus.up (Focus.room before) ⟨before, this, after⟩
        let lower := Focus.down (Focus.room upper.after) upper
        settle kind fuel (lower.this :: lower.before) lower.after
      else settle kind fuel (this :: before) after

/-- A script with its deletions and then its insertions moved together. -/
def compact (edits : List (Edit α)) : List (Edit α) :=
  let fuel := 2 * Focus.room edits
  settle .insert fuel [] (settle .delete fuel [] edits)

end Emend.Diff
