import Emend.Diff.Compaction
import Emend.Proofs.EditScripts
import Mathlib.Logic.Relation

/-! # Moves of edits

Compaction moves one edit at a time, past one of its neighbours or into it. Each move is an exchange
of a few edits for others that cover the same parts of both lists, so that a script stays a script
between the same lists. What else holds of moved edits is likewise shown for one move first.
-/

namespace Emend.Diff

variable {α : Type}

namespace Edit

variable {e : Edit α} {lines : List α} {old new : Nat}

theorem oldLines_of_keep (kind : e.kind = .keep) : e.oldLines = e.lines := by
  simp [oldLines, kind]

theorem newLines_of_keep (kind : e.kind = .keep) : e.newLines = e.lines := by
  simp [newLines, kind]

theorem oldLines_of_insert (kind : e.kind = .insert) : e.oldLines = [] := by
  simp [oldLines, kind]

theorem newLines_of_insert (kind : e.kind = .insert) : e.newLines = e.lines := by
  simp [newLines, kind]

end Edit

namespace Focus

def edits (f : Focus α) : List (Edit α) := f.before.reverse ++ f.this :: f.after

inductive Rises : Focus α → Focus α → Prop where
  /-- Kept lines that are none are dropped. -/
  | blank {prev this before after} : prev.kind = .keep → prev.lines = [] →
      Rises ⟨prev :: before, this, after⟩ ⟨before, this, after⟩
  /-- An insertion slides over kept lines that it ends with. -/
  | slide {prev this before after} (left rest shared : List α) :
      this.kind = .insert → prev.kind = .keep → shared ≠ [] →
      prev.lines = left ++ shared → this.lines = rest ++ shared →
      Rises ⟨prev :: before, this, after⟩
        ⟨if left.isEmpty then before else { prev with lines := left } :: before,
          slideUp this shared,
          keepAfter shared (prev.oldStop - shared.length) (this.newStop - shared.length) after⟩
  /-- Edits of one kind become one. -/
  | merge {prev this before after} : this.kind ≠ .keep → this.kind = prev.kind →
      Rises ⟨prev :: before, this, after⟩
        ⟨before, { prev with lines := prev.lines ++ this.lines }, after⟩
  /-- A deletion and an insertion change places. -/
  | swap {prev this before after} : this.kind ≠ .keep → prev.kind ≠ .keep →
      this.kind ≠ prev.kind → Rises ⟨prev :: before, this, after⟩ ⟨before, this, prev :: after⟩

inductive Sinks : Focus α → Focus α → Prop where
  /-- Kept lines that are none are dropped. -/
  | blank {next this before after} : next.kind = .keep → next.lines = [] →
      Sinks ⟨before, this, next :: after⟩ ⟨before, this, after⟩
  /-- An insertion slides over kept lines that it begins with. -/
  | slide {next this before after} (shared left rest : List α) :
      this.kind = .insert → next.kind = .keep → shared ≠ [] →
      next.lines = shared ++ left → this.lines = shared ++ rest →
      Sinks ⟨before, this, next :: after⟩
        ⟨keepBefore shared next.old this.new before, slideDown this shared,
          if left.isEmpty then after
          else { next with
            lines := left
            old := next.old + shared.length
            new := next.new + shared.length } :: after⟩
  /-- Edits of one kind become one. -/
  | merge {next this before after} : this.kind ≠ .keep → this.kind = next.kind →
      Sinks ⟨before, this, next :: after⟩
        ⟨before, { this with lines := this.lines ++ next.lines }, after⟩
  /-- A deletion and an insertion change places. -/
  | swap {next this before after} : this.kind ≠ .keep → next.kind ≠ .keep →
      this.kind ≠ next.kind → Sinks ⟨before, this, next :: after⟩ ⟨next :: before, this, after⟩

variable {f g : Focus α}

theorem Rises.kind_eq (move : Rises f g) : g.this.kind = f.this.kind := by
  cases move with
  | blank | slide | swap => rfl
  | merge _ same => exact same.symm

theorem Sinks.kind_eq (move : Sinks f g) : g.this.kind = f.this.kind := by
  cases move <;> rfl

/-! ## What a move keeps -/

variable {old new : Nat} {olds news lines : List α} {before after : List (Edit α)}

theorem covers_keepAfter (filled : lines ≠ [])
    (covers : Covers (old + lines.length) (new + lines.length) olds news after) :
    Covers old new (lines ++ olds) (lines ++ news) (keepAfter lines old new after) := by
  have alone : Covers old new (lines ++ olds) (lines ++ news) (⟨.keep, lines, old, new⟩ :: after) :=
    Covers.cons_iff.2 ⟨olds, news, rfl, rfl, ⟨filled, fun _ => rfl, fun _ => rfl⟩, covers⟩
  unfold keepAfter
  split
  · next more o n rest =>
      obtain ⟨olds', news', rfl, rfl, lies, later⟩ := Covers.cons_iff.1 covers
      obtain rfl : o = old + lines.length := lies.old_eq (by simp)
      obtain rfl : n = new + lines.length := lies.new_eq (by simp)
      refine Covers.cons_iff.2 ⟨olds', news', ?_, ?_, ⟨by simp [filled], ?_, ?_⟩, ?_⟩
      · simp [Edit.oldLines]
      · simp [Edit.newLines]
      · simp
      · simp
      · simpa [Edit.oldLines, Edit.newLines, Nat.add_assoc] using later
  · exact alone

theorem covers_keepBefore (filled : lines ≠ []) (covers : Covers old new olds news before.reverse) :
    Covers old new (olds ++ lines) (news ++ lines)
      (keepBefore lines (old + olds.length) (new + news.length) before).reverse := by
  unfold keepBefore
  split
  · next more o n rest =>
      rw [List.reverse_cons] at covers ⊢
      obtain ⟨olds₁, olds₂, news₁, news₂, rfl, rfl, first, second⟩ := covers.split
      obtain ⟨olds', news', rfl, rfl, lies, last⟩ := Covers.cons_iff.1 second
      obtain ⟨-, rfl, rfl⟩ := last
      have longer : Edit.Lies ⟨.keep, more ++ lines, o, n⟩ (old + olds₁.length)
          (new + news₁.length) :=
        ⟨by simp [filled], fun _ => lies.old_eq (by simp), fun _ => lies.new_eq (by simp)⟩
      simp only [List.append_assoc]
      refine first.append (Covers.cons_iff.2 ⟨[], [], ?_, ?_, longer, .nil⟩)
      · simp [Edit.oldLines]
      · simp [Edit.newLines]
  · have added := covers.append (Covers.run_keep lines _ _)
    simpa [run, filled] using added

section Exchanges

variable {one two this prev next : Edit α} {es : List (Edit α)}

theorem covers_merge (kind : one.kind ≠ .keep) (same : one.kind = two.kind)
    (covers : Covers old new olds news (one :: two :: es)) :
    Covers old new olds news ({ one with lines := one.lines ++ two.lines } :: es) := by
  obtain ⟨olds₁, news₁, rfl, rfl, lies, rest⟩ := Covers.cons_iff.1 covers
  obtain ⟨olds₂, news₂, rfl, rfl, lies₂, later⟩ := Covers.cons_iff.1 rest
  obtain ⟨k₁, lines₁, o₁, n₁⟩ := one
  obtain ⟨k₂, lines₂, o₂, n₂⟩ := two
  obtain rfl : k₁ = k₂ := same
  refine Covers.cons_iff.2 ⟨olds₂, news₂, ?_, ?_, ⟨?_, lies.old_eq, lies.new_eq⟩, ?_⟩
  · cases k₁ <;> simp [Edit.oldLines]
  · cases k₁ <;> simp [Edit.newLines]
  · simp [lies.filled]
  · cases k₁ with
    | keep => exact absurd rfl kind
    | delete | insert => simpa [Edit.oldLines, Edit.newLines, Nat.add_assoc] using later

theorem covers_swap (kind₁ : one.kind ≠ .keep) (kind₂ : two.kind ≠ .keep)
    (other : one.kind ≠ two.kind) (covers : Covers old new olds news (one :: two :: es)) :
    Covers old new olds news (two :: one :: es) := by
  obtain ⟨olds₁, news₁, rfl, rfl, lies, rest⟩ := Covers.cons_iff.1 covers
  obtain ⟨olds₂, news₂, rfl, rfl, lies₂, later⟩ := Covers.cons_iff.1 rest
  obtain ⟨k₁, lines₁, o₁, n₁⟩ := one
  obtain ⟨k₂, lines₂, o₂, n₂⟩ := two
  cases k₁ <;> cases k₂ <;> simp only [ne_eq, not_true_eq_false, reduceCtorEq] at kind₁ kind₂ other
  case delete.insert =>
    have first : Edit.Lies ⟨.insert, lines₂, o₂, n₂⟩ old new :=
      ⟨lies₂.filled, fun same => absurd rfl same, lies₂.new_eq⟩
    have second : Edit.Lies ⟨.delete, lines₁, o₁, n₁⟩ old (new + lines₂.length) :=
      ⟨lies.filled, lies.old_eq, fun same => absurd rfl same⟩
    exact Covers.cons_iff.2 ⟨lines₁ ++ olds₂, news₂, rfl, rfl, first,
      Covers.cons_iff.2 ⟨olds₂, news₂, rfl, rfl, second, later⟩⟩
  case insert.delete =>
    have first : Edit.Lies ⟨.delete, lines₂, o₂, n₂⟩ old new :=
      ⟨lies₂.filled, lies₂.old_eq, fun same => absurd rfl same⟩
    have second : Edit.Lies ⟨.insert, lines₁, o₁, n₁⟩ (old + lines₂.length) new :=
      ⟨lies.filled, fun same => absurd rfl same, lies.new_eq⟩
    exact Covers.cons_iff.2 ⟨olds₂, lines₁ ++ news₂, rfl, rfl, first,
      Covers.cons_iff.2 ⟨olds₂, news₂, rfl, rfl, second, later⟩⟩

/-- Kept lines and an insertion that end alike: what is shared is kept behind the insertion. -/
theorem covers_slideUp {left rest shared : List α} (inserts : this.kind = .insert)
    (keeps : prev.kind = .keep) (filled : shared ≠ []) (prevLines : prev.lines = left ++ shared)
    (thisLines : this.lines = rest ++ shared)
    (covers : Covers old new olds news (prev :: this :: es)) :
    Covers old new olds news (run .keep left prev.old prev.new ++ slideUp this shared ::
      keepAfter shared (prev.oldStop - shared.length) (this.newStop - shared.length) es) := by
  obtain ⟨olds₁, news₁, rfl, rfl, lies, behind⟩ := Covers.cons_iff.1 covers
  obtain ⟨olds₂, news₂, rfl, rfl, lies₂, later⟩ := Covers.cons_iff.1 behind
  have prevOld := lies.old_eq (by simp [keeps])
  have prevNew := lies.new_eq (by simp [keeps])
  have thisNew := lies₂.new_eq (by simp [inserts])
  simp only [Edit.oldLines_of_keep keeps, Edit.newLines_of_keep keeps, prevLines,
    Edit.oldLines_of_insert inserts, Edit.newLines_of_insert inserts, thisLines] at thisNew later ⊢
  have slid : (slideUp this shared).lines = shared ++ rest := by simp [slideUp, thisLines]
  have oldAt : prev.oldStop - shared.length = old + left.length := by
    simp only [Edit.oldStop, Edit.oldLines_of_keep keeps, prevLines, prevOld, List.length_append]
    omega
  have newAt : this.newStop - shared.length = new + left.length + (shared ++ rest).length := by
    simp only [Edit.newStop, Edit.newLines_of_insert inserts, thisLines, thisNew,
      List.length_append]
    omega
  have moved : (slideUp this shared).Lies (old + left.length) (new + left.length) := by
    refine ⟨by simp [slid, filled], fun other => absurd inserts other, fun _ => ?_⟩
    simp only [slideUp, thisNew, List.length_append]
    omega
  -- The kept lines lie behind the insertion now, in the second list by as much as it has lines.
  have kept : Covers (old + left.length) (new + left.length + (shared ++ rest).length)
      (shared ++ olds₂) (shared ++ news₂)
      (keepAfter shared (old + left.length) (new + left.length + (shared ++ rest).length) es) := by
    refine covers_keepAfter filled ?_
    convert later using 1 <;> simp only [List.length_append, List.length_nil] <;> omega
  have slidKind : (slideUp this shared).kind = .insert := inserts
  rw [← slid] at newAt kept
  have joined := (Covers.run_keep left old new).append (.cons_insert slidKind moved kept)
  rw [prevOld, prevNew, oldAt, newAt]
  simpa only [slid, List.append_assoc, List.nil_append] using joined

/-- An insertion and kept lines that begin alike: what is shared is kept before the insertion. -/
theorem covers_slideDown {left rest shared : List α} (inserts : this.kind = .insert)
    (keeps : next.kind = .keep) (filled : shared ≠ []) (nextLines : next.lines = shared ++ left)
    (thisLines : this.lines = shared ++ rest) {before after : List (Edit α)}
    (covers : Covers old new olds news (before.reverse ++ this :: next :: after)) :
    Covers old new olds news ((keepBefore shared next.old this.new before).reverse ++
      slideDown this shared ::
        (run .keep left (next.old + shared.length) (next.new + shared.length) ++ after)) := by
  obtain ⟨olds₁, olds₂, news₁, news₂, rfl, rfl, front, back⟩ := covers.split
  obtain ⟨olds₃, news₃, rfl, rfl, lies, behind⟩ := Covers.cons_iff.1 back
  obtain ⟨olds₄, news₄, rfl, rfl, lies₂, later⟩ := Covers.cons_iff.1 behind
  have thisNew := lies.new_eq (by simp [inserts])
  have nextOld := lies₂.old_eq (by simp [keeps])
  have nextNew := lies₂.new_eq (by simp [keeps])
  simp only [Edit.oldLines_of_keep keeps, Edit.newLines_of_keep keeps, nextLines,
    Edit.oldLines_of_insert inserts, Edit.newLines_of_insert inserts, thisLines, List.length_nil,
    Nat.add_zero] at nextOld nextNew later ⊢
  have slid : (slideDown this shared).lines = rest ++ shared := by simp [slideDown, thisLines]
  have moved : (slideDown this shared).Lies (old + (olds₁ ++ shared).length)
      (new + (news₁ ++ shared).length) := by
    refine ⟨by simp [slid, filled], fun other => absurd inserts other, fun _ => ?_⟩
    simp only [slideDown, thisNew, List.length_append]
    omega
  have kept : Covers (old + (olds₁ ++ shared).length) (new + (news₁ ++ shared).length +
      (slideDown this shared).lines.length) (left ++ olds₄) (left ++ news₄)
      (run .keep left (next.old + shared.length) (next.new + shared.length) ++ after) := by
    have oldAt : next.old + shared.length = old + (olds₁ ++ shared).length := by
      simp only [nextOld, List.length_append]
      omega
    have newAt : next.new + shared.length =
        new + (news₁ ++ shared).length + (slideDown this shared).lines.length := by
      simp only [nextNew, slid, List.length_append]
      omega
    rw [oldAt, newAt]
    refine (Covers.run_keep left _ _).append ?_
    convert later using 1 <;> simp only [slid, List.length_append] <;> omega
  have slidKind : (slideDown this shared).kind = .insert := inserts
  have first := covers_keepBefore filled front
  rw [← nextOld, ← thisNew] at first
  have joined := first.append (.cons_insert slidKind moved kept)
  simpa only [slid, List.append_assoc, List.nil_append] using joined

end Exchanges

theorem Rises.covers (move : Rises f g) (whole : Covers old new olds news f.edits) :
    Covers old new olds news g.edits := by
  cases move with
  | @blank prev this before after keeps none =>
      rw [edits, List.reverse_cons, List.append_assoc] at whole
      exact whole.exchange fun _ _ _ _ covers => (covers.head_lies.filled none).elim
  | @slide prev this before after left rest shared inserts keeps filled prevLines thisLines =>
      rw [edits, List.reverse_cons, List.append_assoc] at whole
      have kept : (if left.isEmpty then before else { prev with lines := left } :: before).reverse =
          before.reverse ++ run .keep left prev.old prev.new := by
        cases left <;> simp [run, keeps]
      rw [edits, kept, List.append_assoc]
      exact whole.exchange fun _ _ _ _ =>
        covers_slideUp inserts keeps filled prevLines thisLines
  | @merge prev this before after changes same =>
      rw [edits, List.reverse_cons, List.append_assoc] at whole
      exact whole.exchange fun _ _ _ _ => covers_merge (same ▸ changes) same.symm
  | @swap prev this before after changes changes' other =>
      rw [edits, List.reverse_cons, List.append_assoc] at whole
      exact whole.exchange fun _ _ _ _ => covers_swap changes' changes other.symm

theorem Sinks.covers (move : Sinks f g) (whole : Covers old new olds news f.edits) :
    Covers old new olds news g.edits := by
  cases move with
  | @blank next this before after keeps none =>
      exact whole.exchange fun _ _ _ _ covers => by
        obtain ⟨_, _, _, _, _, behind⟩ := Covers.cons_iff.1 covers
        exact (behind.head_lies.filled none).elim
  | @slide next this before after shared left rest inserts keeps filled nextLines thisLines =>
      have kept : (if left.isEmpty then after else { next with
            lines := left, old := next.old + shared.length, new := next.new + shared.length } ::
            after) =
          run .keep left (next.old + shared.length) (next.new + shared.length) ++ after := by
        cases left <;> simp [run, keeps]
      rw [edits, kept]
      exact covers_slideDown inserts keeps filled nextLines thisLines whole
  | @merge next this before after changes same =>
      exact whole.exchange fun _ _ _ _ => covers_merge changes same
  | @swap next this before after changes changes' other =>
      rw [edits, List.reverse_cons, List.append_assoc]
      exact whole.exchange fun _ _ _ _ => covers_swap changes changes' other

/-! ## Several moves -/

theorem kept_of_moves {Move : Focus α → Focus α → Prop} {P : Focus α → Prop}
    (step : ∀ f g, Move f g → P f → P g) (moves : Relation.ReflTransGen Move f g)
    (start : P f) : P g := by
  induction moves with
  | refl => exact start
  | tail _ move ih => exact step _ _ move ih

/-- How often an edit can move down past others at most. -/
def depth : List (Edit α) → Nat
  | [] => 0
  | e :: es => e.lines.length + 1 + depth es

theorem Sinks.depth_lt (move : Sinks f g) : depth g.after < depth f.after := by
  cases move with
  | blank | merge | swap => simp [depth]
  | slide shared left rest _ _ filled lines =>
      have positive := List.length_pos_iff.2 filled
      cases left with
      | nil => simp [depth]
      | cons a left =>
          simp only [depth, List.isEmpty_cons, Bool.false_eq_true, if_false, lines,
            List.length_append]
          omega

theorem room_eq (es : List (Edit α)) : room es = depth es + 1 := by
  have sums (start : Nat) :
      es.foldl (fun n e => n + e.lines.length + 1) start = start + depth es := by
    induction es generalizing start with
    | nil => rfl
    | cons e es ih =>
        rw [List.foldl_cons, ih]
        simp only [depth]
        omega
  rw [room, sums, Nat.add_comm]

end Focus

end Emend.Diff
