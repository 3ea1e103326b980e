import Emend.Proofs.CompactScripts

/-! # The first edit of a compact script

An insertion and a deletion that change places keep the places that they tell, and from then on one
of them is wrong. That of the first edit in the first list is right all the same. Deletions go
behind the insertions beside them, and an insertion that comes to the start on its way up, past a
deletion or over kept lines, goes down past them again.
-/

namespace Emend.Diff

variable {α : Type} {e : Edit α} {es front back back' : List (Edit α)}

/-- If the first edit is an insertion, it is at the start of the first list. -/
def Grounded (es : List (Edit α)) : Prop := ∀ e ∈ es.head?, e.kind = .insert → e.old = 0

/-- A script begins with a deletion, or with insertions and then a deletion. -/
def LedByDeletion : List (Edit α) → Prop
  | [] => False
  | e :: es => e.kind = .delete ∨ e.kind = .insert ∧ LedByDeletion es

theorem LedByDeletion.exchange (led : LedByDeletion (front ++ back)) (led' : LedByDeletion back') :
    LedByDeletion (front ++ back') := by
  induction front with
  | nil => exact led'
  | cons e front ih => exact led.imp id fun ⟨kind, later⟩ => ⟨kind, ih later⟩

/-- While deletions are moved, the start of a script can change only where there is one. -/
theorem grounded_or_led_exchange (start : Grounded (front ++ back) ∨ LedByDeletion (front ++ back))
    (led : LedByDeletion back') : Grounded (front ++ back') ∨ LedByDeletion (front ++ back') := by
  cases front with
  | nil => exact .inr led
  | cons e front => exact start.imp id fun whole => whole.exchange led

namespace Focus

variable {f g : Focus α} {old new : Nat} {olds news : List α}

/-! ## Deletions -/

theorem Rises.grounded_or_led (move : Rises f g) (deletes : f.this.kind = .delete)
    (start : Grounded f.edits ∨ LedByDeletion f.edits) :
    Grounded g.edits ∨ LedByDeletion g.edits := by
  cases move with
  | slide _ _ _ inserts => cases inserts.symm.trans deletes
  | blank | swap =>
      rw [edits, List.reverse_cons, List.append_assoc] at start
      exact grounded_or_led_exchange start (.inl deletes)
  | merge _ same =>
      rw [edits, List.reverse_cons, List.append_assoc] at start
      exact grounded_or_led_exchange start (.inl (same.symm.trans deletes))

theorem Sinks.grounded_or_led (move : Sinks f g) (deletes : f.this.kind = .delete)
    (start : Grounded f.edits ∨ LedByDeletion f.edits) :
    Grounded g.edits ∨ LedByDeletion g.edits := by
  cases move with
  | slide _ _ _ inserts => cases inserts.symm.trans deletes
  | blank | merge => exact grounded_or_led_exchange start (.inl deletes)
  | @swap next this before after _ keeps other =>
      have inserts : next.kind = .insert := by
        cases shape : next.kind with
        | insert => rfl
        | keep => exact absurd shape keeps
        | delete => exact absurd (deletes.trans shape.symm) other
      rw [edits, List.reverse_cons, List.append_assoc]
      exact grounded_or_led_exchange start (.inr ⟨inserts, .inl deletes⟩)

/-! ## Insertions -/

variable [DecidableEq α]

theorem commonPrefix_append_ne_nil {shared : List α} (filled : shared ≠ []) (as bs : List α) :
    commonPrefix (shared ++ as) (shared ++ bs) ≠ [] := by
  obtain ⟨a, shared, rfl⟩ := List.exists_cons_of_ne_nil filled
  simp [commonPrefix]

omit [DecidableEq α] in
theorem exists_head_keepAfter (lines : List α) (old new : Nat) (after : List (Edit α)) :
    ∃ next ∈ (keepAfter lines old new after).head?, next.kind = .keep ∧
      ∃ more, next.lines = lines ++ more := by
  unfold keepAfter
  split
  · exact ⟨_, rfl, rfl, _, rfl⟩
  · exact ⟨_, rfl, rfl, [], by simp⟩

/-- The earliest edit is an insertion only if it is at the start of the first list. Edits before
another one are held last first. -/
def Fixed (before : List (Edit α)) : Prop := ∀ e ∈ before.getLast?, e.kind = .insert → e.old = 0

omit [DecidableEq α] in
theorem Fixed.cons {before : List (Edit α)} (fixed : Fixed before)
    (alone : before = [] → e.kind = .insert → e.old = 0) : Fixed (e :: before) := by
  cases before with
  | nil =>
      intro first same
      obtain rfl : e = first := by simpa using same
      exact alone rfl
  | cons d before => simpa only [Fixed, List.getLast?_cons_cons] using fixed

omit [DecidableEq α] in
theorem Fixed.of_cons {before : List (Edit α)} (fixed : Fixed (e :: before)) : Fixed before := by
  cases before with
  | nil => exact nofun
  | cons d before => simpa only [Fixed, List.getLast?_cons_cons] using fixed

omit [DecidableEq α] in
theorem Fixed.keepBefore {before : List (Edit α)} (fixed : Fixed before) (lines : List α)
    (old new : Nat) : Fixed (keepBefore lines old new before) := by
  unfold Focus.keepBefore
  split
  · next more o n rest => exact fixed.of_cons.cons (by simp)
  · exact fixed.cons (by simp)

omit [DecidableEq α] in
theorem keepBefore_ne_nil (lines : List α) (old new : Nat) (before : List (Edit α)) :
    Focus.keepBefore lines old new before ≠ [] := by
  unfold Focus.keepBefore
  split <;> exact List.cons_ne_nil _ _

/-- An insertion on its way. If there is nothing before it, it is at the start of the first list, or
it goes down past something. -/
structure Anchored (f : Focus α) : Prop where
  fixed : Fixed f.before
  first : f.before = [] → f.this.old = 0 ∨ LedByDeletion f.after ∨
    ∃ next ∈ f.after.head?, next.kind = .keep ∧ commonPrefix next.lines f.this.lines ≠ []

theorem Rises.anchored (move : Rises f g) (inserts : f.this.kind = .insert)
    (filled : ∀ e ∈ f.before, e.lines ≠ []) (anchored : f.Anchored) : g.Anchored := by
  cases move with
  | blank _ none => exact absurd none (filled _ List.mem_cons_self)
  | @slide prev this before after left rest shared _ keeps some prevLines thisLines =>
      have fixed : Fixed before := anchored.fixed.of_cons
      refine ⟨?_, fun _ => .inr (.inr ?_)⟩
      · cases left with
        | nil => exact fixed
        | cons a left => exact fixed.cons fun _ inserts => by cases keeps.symm.trans inserts
      · -- The insertion now begins with the lines that are kept behind it, and can slide back.
        obtain ⟨next, head, keeps, more, lines⟩ := exists_head_keepAfter shared
          (prev.oldStop - shared.length) (this.newStop - shared.length) after
        refine ⟨next, head, keeps, ?_⟩
        rw [lines]
        exact commonPrefix_append_ne_nil some _ _
  | @merge prev this before after _ same =>
      refine ⟨anchored.fixed.of_cons, fun none => .inl ?_⟩
      subst none
      exact anchored.fixed prev rfl (same.symm.trans inserts)
  | @swap prev this before after _ keeps other =>
      have deletes : prev.kind = .delete := by
        cases shape : prev.kind with
        | delete => rfl
        | keep => exact absurd shape keeps
        | insert => exact absurd (inserts.trans shape.symm) other
      exact ⟨anchored.fixed.of_cons, fun _ => .inr (.inl (.inl deletes))⟩

theorem Sinks.anchored (move : Sinks f g) (inserts : f.this.kind = .insert)
    (anchored : f.Anchored) : g.Anchored := by
  cases move with
  | @blank next this before after keeps none =>
      refine ⟨anchored.fixed, fun start => ?_⟩
      rcases anchored.first start with first | led | ⟨next', head, _, shared⟩
      · exact .inl first
      · rcases led with deletes | ⟨inserts, _⟩
        · cases keeps.symm.trans deletes
        · cases keeps.symm.trans inserts
      · obtain rfl : next = next' := by simpa using head
        rw [none] at shared
        exact absurd rfl shared
  | slide shared left rest =>
      exact ⟨anchored.fixed.keepBefore _ _ _, fun none => absurd none (keepBefore_ne_nil _ _ _ _)⟩
  | @merge next this before after _ same =>
      refine ⟨anchored.fixed, fun start => ?_⟩
      rcases anchored.first start with first | led | ⟨next', head, keeps, _⟩
      · exact .inl first
      · rcases led with deletes | ⟨_, later⟩
        · cases (inserts.symm.trans same).trans deletes
        · exact .inr (.inl later)
      · obtain rfl : next = next' := by simpa using head
        cases (inserts.symm.trans same).trans keeps
  | @swap next this before after _ keeps other =>
      refine ⟨anchored.fixed.cons fun _ same => ?_, fun none => absurd none (List.cons_ne_nil _ _)⟩
      exact absurd (inserts.trans same.symm) other

/-- An insertion that has come to rest is past everything that it could go down past. -/
theorem Anchored.fixed_of_atRest (anchored : f.Anchored) (inserts : f.this.kind = .insert)
    (rest : f.AtRest) : Fixed (f.this :: f.before) := by
  refine anchored.fixed.cons fun start _ => ?_
  rcases anchored.first start with first | led | ⟨next, head, _, shared⟩
  · exact first
  · cases shape : f.after with
    | nil =>
        rw [shape] at led
        exact led.elim
    | cons next after =>
        have keeps := (rest next (by simp [shape])).1
        rw [shape] at led
        rcases led with deletes | ⟨inserts, _⟩
        · cases keeps.symm.trans deletes
        · cases keeps.symm.trans inserts
  · exact absurd ((rest next head).2.2 inserts) shared

/-! ## Edits where they come to -/

theorem settled_grounded_or_led (deletes : f.this.kind = .delete)
    (start : Grounded f.edits ∨ LedByDeletion f.edits) :
    Grounded f.settled.edits ∨ LedByDeletion f.settled.edits :=
  (settled_induction
    (P := fun f => f.this.kind = .delete ∧ (Grounded f.edits ∨ LedByDeletion f.edits))
    (by simp [deletes])
    (fun _ _ move held => ⟨move.kind_eq.trans held.1, move.grounded_or_led held.1 held.2⟩)
    (fun _ _ move held => ⟨move.kind_eq.trans held.1, move.grounded_or_led held.1 held.2⟩)
    ⟨deletes, start⟩).2

/-- An insertion on its way in a script between two lists. -/
structure Moving (old new : Nat) (olds news : List α) (f : Focus α) : Prop where
  covers : Covers old new olds news f.edits
  inserts : f.this.kind = .insert
  anchored : f.Anchored

theorem Moving.rises (moving : Moving old new olds news f) (move : Rises f g) :
    Moving old new olds news g where
  covers := move.covers moving.covers
  inserts := move.kind_eq.trans moving.inserts
  anchored := move.anchored moving.inserts
    (fun e seen => moving.covers.placed.filled e (by simp [edits, seen])) moving.anchored

theorem Moving.sinks (moving : Moving old new olds news f) (move : Sinks f g) :
    Moving old new olds news g where
  covers := move.covers moving.covers
  inserts := move.kind_eq.trans moving.inserts
  anchored := move.anchored moving.inserts moving.anchored

theorem Moving.settled (moving : Moving old new olds news f) : Moving old new olds news f.settled :=
  settled_induction (by simp [moving.inserts]) (fun _ _ move held => held.rises move)
    (fun _ _ move held => held.sinks move) moving

end Focus

/-! ## All edits -/

variable [DecidableEq α] {old new : Nat} {olds news : List α} {before after : List (Edit α)}
  {this : Edit α}

theorem settle_grounded_or_led (fuel : Nat) (start : Grounded es ∨ LedByDeletion es)
    (fueled : 0 < fuel) :
    Grounded (settle .delete fuel [] es) ∨ LedByDeletion (settle .delete fuel [] es) := by
  have start : Grounded (([] : List (Edit α)).reverse ++ es) ∨
      LedByDeletion (([] : List (Edit α)).reverse ++ es) := start
  obtain ⟨before, after, script, kept, _⟩ := settle_induction
    (P := fun before after =>
      Grounded (before.reverse ++ after) ∨ LedByDeletion (before.reverse ++ after))
    (fun before this after _ => by simp)
    (fun before this after deletes start => by
      have settled := Focus.settled_grounded_or_led (f := ⟨before, this, after⟩) deletes start
      simpa [Focus.edits] using settled)
    fuel start (.inr fueled)
  rwa [script]

/-- A script with its insertions dealt with up to some edit. The edits before it come last first. -/
structure Settling (old new : Nat) (olds news : List α) (before after : List (Edit α)) : Prop where
  covers : Covers old new olds news (before.reverse ++ after)
  fixed : Focus.Fixed before
  start : before = [] → Grounded after ∨ LedByDeletion after

omit [DecidableEq α] in
theorem Settling.pass (settling : Settling old new olds news before (this :: after))
    (other : this.kind ≠ .insert) : Settling old new olds news (this :: before) after where
  covers := by simpa using settling.covers
  fixed := settling.fixed.cons fun _ inserts => absurd inserts other
  start none := absurd none (List.cons_ne_nil _ _)

theorem Settling.move (settling : Settling old new olds news before (this :: after))
    (inserts : this.kind = .insert) :
    let rest := Focus.settled ⟨before, this, after⟩
    Settling old new olds news (rest.this :: rest.before) rest.after := by
  have anchored : Focus.Anchored ⟨before, this, after⟩ := by
    refine ⟨settling.fixed, fun first => (settling.start first).imp ?_ ?_⟩
    · exact fun grounded => grounded this rfl inserts
    · rintro (deletes | ⟨-, led⟩)
      · cases inserts.symm.trans deletes
      · exact .inl led
  have changes : (⟨before, this, after⟩ : Focus α).this.kind ≠ .keep := by simp [inserts]
  have moved := Focus.Moving.settled ⟨settling.covers, inserts, anchored⟩
  refine ⟨by simpa [Focus.edits] using moved.covers, ?_,
    fun none => absurd none (List.cons_ne_nil _ _)⟩
  exact moved.anchored.fixed_of_atRest moved.inserts (Focus.atRest_settled changes)

theorem settle_grounded (fuel : Nat) (covers : Covers old new olds news es)
    (start : Grounded es ∨ LedByDeletion es) (fueled : 0 < fuel) :
    Grounded (settle .insert fuel [] es) := by
  have first : Settling old new olds news [] es := ⟨covers, nofun, fun _ => start⟩
  obtain ⟨before, after, script, ⟨_, fixed, _⟩, done⟩ := settle_induction
    (fun _ _ _ other settling => settling.pass other)
    (fun _ _ _ inserts settling => settling.move inserts) fuel first (.inr fueled)
  rw [script]
  intro e head
  -- With any edits at all, the first of them is the last of those that have been dealt with.
  cases shape : before.reverse with
  | nil =>
      rw [shape, done (List.reverse_eq_nil_iff.1 shape)] at head
      cases head
  | cons d rest =>
      rw [shape] at head
      refine fixed e ?_
      rw [List.getLast?_eq_head?_reverse, shape]
      exact head

/-- The first edit of a compact script is at the start of the first list if it inserts lines. -/
theorem grounded_compact_script (olds news : List α) : Grounded (compact (script olds news)) := by
  have start : Grounded (script olds news) := fun e head _ => opensAt_script olds news e head
  have fueled : 0 < 2 * Focus.room (script olds news) := by
    rw [Focus.room_eq]
    omega
  exact settle_grounded _ (covers_settle (by simp) _ (covers_script olds news) fueled)
    (settle_grounded_or_led _ (.inl start) fueled) fueled

end Emend.Diff
