import Emend.Proofs.EditMoves

/-! # Compact scripts

Compaction moves an edit for as long as it can move: first up, and then down until it rests on kept
lines that it does not begin with. All of it consists of single moves, so that a compact script
covers the lists that the script covered before.
-/

namespace Emend.Diff

open Relation

variable {α : Type} [DecidableEq α] {f g : Focus α} {old new : Nat} {olds news : List α}

namespace Focus

/-- An edit that can move down no further: what is behind it keeps lines, and an insertion begins
with other ones. -/
def AtRest (f : Focus α) : Prop :=
  ∀ next ∈ f.after.head?, next.kind = .keep ∧ next.lines ≠ [] ∧
    (f.this.kind = .insert → commonPrefix next.lines f.this.lines = [])

theorem up_succ (changes : f.this.kind ≠ .keep) (fuel : Nat) :
    up (fuel + 1) f = f ∨ ∃ g, Rises f g ∧ up (fuel + 1) f = up fuel g := by
  obtain ⟨before, this, after⟩ := f
  cases before with
  | nil => exact .inl rfl
  | cons prev before =>
      obtain ⟨kind, lines, o, n⟩ := prev
      by_cases blank : kind = .keep ∧ lines = []
      · obtain ⟨rfl, rfl⟩ := blank
        refine .inr ⟨_, .blank rfl rfl, ?_⟩
        cases shape : this.kind with
        | keep => exact absurd shape changes
        | delete | insert => simp [up, shape, commonSuffix, commonPrefix]
      · cases kind with
        | keep =>
            have filled : lines ≠ [] := fun none => blank ⟨rfl, none⟩
            cases shape : this.kind with
            | keep => exact absurd shape changes
            | delete => exact .inl (by simp [up, shape, filled])
            | insert =>
                by_cases none : commonSuffix lines this.lines = []
                · exact .inl (by simp [up, shape, filled, none])
                · refine .inr ⟨_, .slide _ _ _ shape rfl none
                    (List.suffix_iff_eq_append.1 (commonSuffix_suffix_left lines this.lines)).symm
                    (List.suffix_iff_eq_append.1 (commonSuffix_suffix_right lines this.lines)).symm,
                    ?_⟩
                  simp only [up, shape, if_true, List.isEmpty_iff, none, if_false]
        | delete =>
            cases shape : this.kind with
            | keep => exact absurd shape changes
            | delete => exact .inr ⟨_, .merge changes shape, by simp [up, shape]⟩
            | insert =>
                exact .inr ⟨_, .swap changes (by simp) (by simp [shape]), by simp [up, shape]⟩
        | insert =>
            cases shape : this.kind with
            | keep => exact absurd shape changes
            | insert => exact .inr ⟨_, .merge changes shape, by simp [up, shape]⟩
            | delete =>
                exact .inr ⟨_, .swap changes (by simp) (by simp [shape]), by simp [up, shape]⟩

theorem down_succ (changes : f.this.kind ≠ .keep) (fuel : Nat) :
    down (fuel + 1) f = f ∧ f.AtRest ∨ ∃ g, Sinks f g ∧ down (fuel + 1) f = down fuel g := by
  obtain ⟨before, this, after⟩ := f
  cases after with
  | nil => exact .inl ⟨rfl, by simp [AtRest]⟩
  | cons next after =>
      obtain ⟨kind, lines, o, n⟩ := next
      by_cases blank : kind = .keep ∧ lines = []
      · obtain ⟨rfl, rfl⟩ := blank
        refine .inr ⟨_, .blank rfl rfl, ?_⟩
        cases shape : this.kind with
        | keep => exact absurd shape changes
        | delete | insert => simp [down, shape, commonPrefix]
      · cases kind with
        | keep =>
            have filled : lines ≠ [] := fun none => blank ⟨rfl, none⟩
            cases shape : this.kind with
            | keep => exact absurd shape changes
            | delete => exact .inl ⟨by simp [down, shape, filled], by simp [AtRest, shape, filled]⟩
            | insert =>
                by_cases none : commonPrefix lines this.lines = []
                · exact .inl ⟨by simp [down, shape, filled, none],
                    by simp [AtRest, filled, none]⟩
                · refine .inr ⟨_, .slide _ _ _ shape rfl none
                    (List.prefix_iff_eq_append.1 (commonPrefix_prefix_left lines this.lines)).symm
                    (List.prefix_iff_eq_append.1 (commonPrefix_prefix_right lines this.lines)).symm,
                    ?_⟩
                  simp only [down, shape, if_true, List.isEmpty_iff, none, if_false]
        | delete =>
            cases shape : this.kind with
            | keep => exact absurd shape changes
            | delete => exact .inr ⟨_, .merge changes shape, by simp [down, shape]⟩
            | insert =>
                exact .inr ⟨_, .swap changes (by simp) (by simp [shape]), by simp [down, shape]⟩
        | insert =>
            cases shape : this.kind with
            | keep => exact absurd shape changes
            | insert => exact .inr ⟨_, .merge changes shape, by simp [down, shape]⟩
            | delete =>
                exact .inr ⟨_, .swap changes (by simp) (by simp [shape]), by simp [down, shape]⟩

theorem rises_up (changes : f.this.kind ≠ .keep) (fuel : Nat) :
    ReflTransGen Rises f (up fuel f) := by
  induction fuel generalizing f with
  | zero => exact .refl
  | succ fuel ih =>
      rcases up_succ changes fuel with same | ⟨g, move, next⟩
      · rw [same]
      · rw [next]
        exact .head move (ih (move.kind_eq ▸ changes))

/-- Where an edit comes to when it is moved down. The fuel is enough for all of its moves. -/
theorem sinks_down {fuel : Nat} (changes : f.this.kind ≠ .keep) (enough : depth f.after < fuel) :
    ReflTransGen Sinks f (down fuel f) ∧ (down fuel f).AtRest := by
  induction fuel generalizing f with
  | zero => exact absurd enough (Nat.not_lt_zero _)
  | succ fuel ih =>
      rcases down_succ changes fuel with ⟨same, rest⟩ | ⟨g, move, next⟩
      · rw [same]
        exact ⟨.refl, rest⟩
      · have less := move.depth_lt
        obtain ⟨later, rest⟩ := ih (f := g) (move.kind_eq ▸ changes) (by omega)
        rw [next]
        exact ⟨.head move later, rest⟩

/-- Where an edit comes to that is moved up and then down. -/
def settled (f : Focus α) : Focus α :=
  down (room (up (room f.before) f).after) (up (room f.before) f)

theorem moves_settled (changes : f.this.kind ≠ .keep) :
    ∃ top, ReflTransGen Rises f top ∧ ReflTransGen Sinks top f.settled ∧ f.settled.AtRest := by
  -- On its way up the edit may stop early, for lack of fuel; only where it stops below matters.
  have rise := rises_up changes (room f.before)
  have changes' := kept_of_moves (P := fun g => g.this.kind ≠ .keep)
    (fun _ _ move => by rw [move.kind_eq]; exact id) rise changes
  have enough : depth (up (room f.before) f).after < room (up (room f.before) f).after := by
    rw [room_eq (up (room f.before) f).after]
    exact Nat.lt_succ_self _
  obtain ⟨sink, rest⟩ := sinks_down changes' enough
  exact ⟨_, rise, sink, rest⟩

theorem atRest_settled (changes : f.this.kind ≠ .keep) : f.settled.AtRest := by
  obtain ⟨_, _, _, rest⟩ := moves_settled changes
  exact rest

/-- What moves in both directions keep holds of an edit where it comes to. -/
theorem settled_induction {P : Focus α → Prop} (changes : f.this.kind ≠ .keep)
    (rises : ∀ f g, Rises f g → P f → P g) (sinks : ∀ f g, Sinks f g → P f → P g) (start : P f) :
    P f.settled := by
  obtain ⟨top, rise, sink, _⟩ := moves_settled changes
  exact kept_of_moves sinks sink (kept_of_moves rises rise start)

theorem covers_settled (changes : f.this.kind ≠ .keep)
    (covers : Covers old new olds news f.edits) : Covers old new olds news f.settled.edits :=
  settled_induction (P := fun f => Covers old new olds news f.edits) changes
    (fun _ _ move => move.covers) (fun _ _ move => move.covers) covers

end Focus

/-! ## All edits of a kind -/

/-- What holds of a script seen from each of its edits of a kind, if it holds at first and is kept
when one of them is moved and when another edit is passed. If there is any fuel, the edits that have
been dealt with are none only if there are none at all. -/
theorem settle_induction {kind : EditKind} {P : (before after : List (Edit α)) → Prop}
    (pass : ∀ before this after, this.kind ≠ kind → P before (this :: after) →
      P (this :: before) after)
    (move : ∀ before this after, this.kind = kind → P before (this :: after) →
      let rest := Focus.settled ⟨before, this, after⟩
      P (rest.this :: rest.before) rest.after)
    (fuel : Nat) {before after : List (Edit α)} (start : P before after)
    (fueled : before ≠ [] ∨ 0 < fuel) :
    ∃ before' after', settle kind fuel before after = before'.reverse ++ after' ∧
      P before' after' ∧ (before' = [] → after' = []) := by
  induction fuel generalizing before after with
  | zero =>
      refine ⟨before, after, rfl, start, fun none => ?_⟩
      exact absurd none (fueled.resolve_right (Nat.lt_irrefl 0))
  | succ fuel ih =>
      cases after with
      | nil => exact ⟨before, [], by simp [settle], start, fun _ => rfl⟩
      | cons this after =>
          by_cases same : this.kind = kind
          · have next := ih (move before this after same start) (.inl (List.cons_ne_nil _ _))
            simpa only [settle, same, if_true, Focus.settled] using next
          · have next := ih (pass before this after same start) (.inl (List.cons_ne_nil _ _))
            simpa only [settle, same, if_false] using next

theorem covers_settle {kind : EditKind} (changes : kind ≠ .keep) (fuel : Nat)
    {es : List (Edit α)} (covers : Covers old new olds news es) (fueled : 0 < fuel) :
    Covers old new olds news (settle kind fuel [] es) := by
  have moved (before : List (Edit α)) (this : Edit α) (after : List (Edit α))
      (same : this.kind = kind)
      (start : Covers old new olds news (before.reverse ++ this :: after)) :
      let rest := Focus.settled ⟨before, this, after⟩
      Covers old new olds news ((rest.this :: rest.before).reverse ++ rest.after) := by
    have settled := Focus.covers_settled (f := ⟨before, this, after⟩) (same ▸ changes) start
    simpa [Focus.edits] using settled
  have start : Covers old new olds news (([] : List (Edit α)).reverse ++ es) := covers
  obtain ⟨before, after, script, covers, _⟩ := settle_induction
    (P := fun before after => Covers old new olds news (before.reverse ++ after))
    (fun before this after _ => by simp) moved fuel start (.inr fueled)
  rwa [script]

theorem covers_compact {es : List (Edit α)} (covers : Covers old new olds news es) :
    Covers old new olds news (compact es) := by
  have fueled : 0 < 2 * Focus.room es := by
    rw [Focus.room_eq]
    omega
  exact covers_settle (by simp) _ (covers_settle (by simp) _ covers fueled) fueled

theorem settle_of_absent {kind : EditKind} (fuel : Nat) {before after : List (Edit α)}
    (absent : ∀ e ∈ after, e.kind ≠ kind) :
    settle kind fuel before after = before.reverse ++ after := by
  induction fuel generalizing before after with
  | zero => rfl
  | succ fuel ih =>
      cases after with
      | nil => simp [settle]
      | cons e after =>
          obtain ⟨other, absent⟩ := List.forall_mem_cons.1 absent
          simp [settle, other, ih absent]

theorem compact_of_kept {es : List (Edit α)} (kept : ∀ e ∈ es, e.kind = .keep) :
    compact es = es := by
  have absent {kind : EditKind} (changes : kind ≠ .keep) : ∀ e ∈ es, e.kind ≠ kind :=
    fun e seen same => changes (same.symm.trans (kept e seen))
  rw [compact, settle_of_absent _ (absent (by simp)), List.reverse_nil, List.nil_append,
    settle_of_absent _ (absent (by simp)), List.reverse_nil, List.nil_append]

end Emend.Diff
