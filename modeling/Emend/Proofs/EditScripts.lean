import Emend.Diff.Script
import Mathlib.Data.List.Infix

/-! # Scripts that cover two lists

A script covers two lists if its kept and deleted lines are the first list and its kept and inserted
lines the second one, and every edit knows where its lines are. The place of a deletion in the
second list and that of an insertion in the first one are not asked for, since no lines are there.
-/

namespace Emend.Diff

variable {α : Type} {e : Edit α} {es front back : List (Edit α)} {old new : Nat}
  {olds news : List α}

/-- An edit has lines, and it has the places of those that it takes and gives. -/
structure Edit.Lies (e : Edit α) (old new : Nat) : Prop where
  filled : e.lines ≠ []
  old_eq : e.kind ≠ .insert → e.old = old
  new_eq : e.kind ≠ .delete → e.new = new

/-- Edits lie one behind the other, from given places on. -/
def Placed : (old new : Nat) → List (Edit α) → Prop
  | _, _, [] => True
  | old, new, e :: es =>
      e.Lies old new ∧ Placed (old + e.oldLines.length) (new + e.newLines.length) es

@[simp]
theorem placed_nil : Placed old new ([] : List (Edit α)) := trivial

@[simp]
theorem placed_cons :
    Placed old new (e :: es) ↔
      e.Lies old new ∧ Placed (old + e.oldLines.length) (new + e.newLines.length) es := Iff.rfl

@[simp]
theorem oldSide_nil : oldSide ([] : List (Edit α)) = [] := rfl

@[simp]
theorem newSide_nil : newSide ([] : List (Edit α)) = [] := rfl

@[simp]
theorem oldSide_cons : oldSide (e :: es) = e.oldLines ++ oldSide es := rfl

@[simp]
theorem newSide_cons : newSide (e :: es) = e.newLines ++ newSide es := rfl

@[simp]
theorem oldSide_append : oldSide (front ++ back) = oldSide front ++ oldSide back := by
  simp [oldSide]

@[simp]
theorem newSide_append : newSide (front ++ back) = newSide front ++ newSide back := by
  simp [newSide]

@[simp]
theorem placed_append :
    Placed old new (front ++ back) ↔
      Placed old new front ∧
        Placed (old + (oldSide front).length) (new + (newSide front).length) back := by
  induction front generalizing old new with
  | nil => simp
  | cons e front ih => simp [ih, and_assoc, Nat.add_assoc]

theorem Placed.filled (placed : Placed old new es) : ∀ e ∈ es, e.lines ≠ [] := by
  induction es generalizing old new with
  | nil => exact nofun
  | cons e es ih => exact List.forall_mem_cons.2 ⟨placed.1.filled, ih placed.2⟩

namespace Edit

theorem Lies.kind_eq_insert (lies : e.Lies old new) (none : e.oldLines = []) :
    e.kind = .insert := by
  cases shape : e.kind with
  | insert => rfl
  | keep => exact absurd (by simpa [oldLines, shape] using none) lies.filled
  | delete => exact absurd (by simpa [oldLines, shape] using none) lies.filled

theorem Lies.kind_eq_delete (lies : e.Lies old new) (none : e.newLines = []) :
    e.kind = .delete := by
  cases shape : e.kind with
  | delete => rfl
  | keep => exact absurd (by simpa [newLines, shape] using none) lies.filled
  | insert => exact absurd (by simpa [newLines, shape] using none) lies.filled

end Edit

/-- Where no lines are taken from a list, the place in it does not matter. -/
theorem Placed.move {old' new' : Nat} (placed : Placed old new es)
    (olds : oldSide es = [] ∨ old = old') (news : newSide es = [] ∨ new = new') :
    Placed old' new' es := by
  induction es generalizing old new old' new' with
  | nil => trivial
  | cons e es ih =>
      obtain ⟨lies, later⟩ := placed
      simp only [oldSide_cons, newSide_cons, List.append_eq_nil_iff] at olds news
      refine ⟨⟨lies.filled, ?_, ?_⟩, ih later ?_ ?_⟩
      · intro kind
        rcases olds with ⟨none, _⟩ | rfl
        · exact absurd (lies.kind_eq_insert none) kind
        · exact lies.old_eq kind
      · intro kind
        rcases news with ⟨none, _⟩ | rfl
        · exact absurd (lies.kind_eq_delete none) kind
        · exact lies.new_eq kind
      · exact olds.imp And.right fun same => by rw [same]
      · exact news.imp And.right fun same => by rw [same]

/-- A script takes one list and gives another, with all edits in their places. -/
structure Covers (old new : Nat) (olds news : List α) (es : List (Edit α)) : Prop where
  placed : Placed old new es
  oldSide_eq : oldSide es = olds
  newSide_eq : newSide es = news

namespace Covers

variable {olds' news' : List α} {es' : List (Edit α)}

theorem nil : Covers old new [] [] ([] : List (Edit α)) := ⟨trivial, rfl, rfl⟩

theorem olds_eq_nil (covers : Covers old new olds news es) (none : es = []) : olds = [] := by
  rw [← covers.oldSide_eq, none, oldSide_nil]

theorem cons_iff :
    Covers old new olds news (e :: es) ↔
      ∃ olds' news', olds = e.oldLines ++ olds' ∧ news = e.newLines ++ news' ∧ e.Lies old new ∧
        Covers (old + e.oldLines.length) (new + e.newLines.length) olds' news' es := by
  constructor
  · rintro ⟨⟨lies, later⟩, rfl, rfl⟩
    exact ⟨_, _, rfl, rfl, lies, later, rfl, rfl⟩
  · rintro ⟨olds', news', rfl, rfl, lies, later, rfl, rfl⟩
    exact ⟨⟨lies, later⟩, rfl, rfl⟩

theorem head_lies (covers : Covers old new olds news (e :: es)) : e.Lies old new := covers.placed.1

theorem cons_insert (kind : e.kind = .insert) (lies : e.Lies old new)
    (covers : Covers old (new + e.lines.length) olds news es) :
    Covers old new olds (e.lines ++ news) (e :: es) := by
  refine cons_iff.2 ⟨olds, news, ?_, ?_, lies, ?_⟩ <;>
    simp [Edit.oldLines, Edit.newLines, kind, covers]

theorem append (first : Covers old new olds news es)
    (second : Covers (old + olds.length) (new + news.length) olds' news' es') :
    Covers old new (olds ++ olds') (news ++ news') (es ++ es') := by
  refine ⟨?_, ?_, ?_⟩
  · rw [placed_append, first.oldSide_eq, first.newSide_eq]
    exact ⟨first.placed, second.placed⟩
  · rw [oldSide_append, first.oldSide_eq, second.oldSide_eq]
  · rw [newSide_append, first.newSide_eq, second.newSide_eq]

theorem split (covers : Covers old new olds news (front ++ back)) :
    ∃ olds₁ olds₂ news₁ news₂, olds = olds₁ ++ olds₂ ∧ news = news₁ ++ news₂ ∧
      Covers old new olds₁ news₁ front ∧
      Covers (old + olds₁.length) (new + news₁.length) olds₂ news₂ back := by
  obtain ⟨placed, rfl, rfl⟩ := covers
  obtain ⟨first, second⟩ := placed_append.1 placed
  exact ⟨_, _, _, _, oldSide_append, newSide_append, ⟨first, rfl, rfl⟩, ⟨second, rfl, rfl⟩⟩

theorem exchange (whole : Covers old new olds news (front ++ back))
    (change : ∀ old new olds news, Covers old new olds news back → Covers old new olds news es) :
    Covers old new olds news (front ++ es) := by
  obtain ⟨olds₁, olds₂, news₁, news₂, rfl, rfl, first, second⟩ := whole.split
  exact first.append (change _ _ _ _ second)

theorem run_keep (lines : List α) (old new : Nat) :
    Covers old new lines lines (run .keep lines old new) := by
  cases lines with
  | nil => exact nil
  | cons a lines =>
      refine ⟨⟨⟨List.cons_ne_nil _ _, fun _ => rfl, fun _ => rfl⟩, trivial⟩, ?_, ?_⟩ <;>
        simp [run, Edit.oldLines, Edit.newLines]

theorem run_delete (lines : List α) (old new : Nat) :
    Covers old new lines [] (run .delete lines old new) := by
  cases lines with
  | nil => exact nil
  | cons a lines =>
      refine ⟨⟨⟨List.cons_ne_nil _ _, fun _ => rfl, fun other => absurd rfl other⟩, trivial⟩,
        ?_, ?_⟩ <;> simp [run, Edit.oldLines, Edit.newLines]

theorem run_insert (lines : List α) (old new old' : Nat) :
    Covers old new [] lines (run .insert lines old' new) := by
  cases lines with
  | nil => exact nil
  | cons a lines =>
      refine ⟨⟨⟨List.cons_ne_nil _ _, fun other => absurd rfl other, fun _ => rfl⟩, trivial⟩,
        ?_, ?_⟩ <;> simp [run, Edit.oldLines, Edit.newLines]

theorem run_replace (olds news : List α) (old new : Nat) :
    Covers old new olds news (run .delete olds old new ++ run .insert news old new) := by
  have joined := (run_delete olds old new).append (run_insert news _ _ old)
  simpa using joined

end Covers

/-- The first edit, if there is one, has a given place in the first list. -/
def OpensAt (old : Nat) (es : List (Edit α)) : Prop := ∀ e ∈ es.head?, e.old = old

theorem OpensAt.append (first : OpensAt old front)
    (second : front = [] → OpensAt old back) : OpensAt old (front ++ back) := by
  cases front with
  | nil => exact second rfl
  | cons e front => exact first

theorem run_eq_nil_iff {kind : EditKind} {lines : List α} :
    run kind lines old new = [] ↔ lines = [] := by
  cases lines <;> simp [run]

theorem opensAt_run (kind : EditKind) (lines : List α) (old new : Nat) :
    OpensAt old (run kind lines old new) := by
  cases lines <;> simp [OpensAt, run]

/-! ## Cutting lists -/

theorem eq_middle {list head tail : List α} (starts : head <+: list)
    (ends : tail <:+ list.drop head.length) :
    list =
      head ++ (list.drop head.length).take (list.length - head.length - tail.length) ++ tail := by
  obtain ⟨rest, rfl⟩ := starts
  rw [List.drop_left] at ends ⊢
  obtain ⟨middle, rfl⟩ := ends
  have size : (head ++ (middle ++ tail)).length - head.length - tail.length = middle.length := by
    simp only [List.length_append]
    omega
  rw [size, List.take_left, List.append_assoc]

/-- Where two lists are cut, the edits of the second halves lie behind those of the first ones. A
place beyond the end of a list leaves nothing of it for the second half. -/
theorem Covers.halves {i j : Nat}
    (first : Covers old new (olds.take i) (news.take j) front)
    (second : Covers (old + i) (new + j) (olds.drop i) (news.drop j) back) :
    Covers old new olds news (front ++ back) := by
  have behind (list : List α) (n : Nat) : list.drop n = [] ∨ n = (list.take n).length := by
    rw [List.drop_eq_nil_iff, List.length_take]
    omega
  have moved : Covers (old + (olds.take i).length) (new + (news.take j).length) (olds.drop i)
      (news.drop j) back := by
    refine ⟨second.placed.move ?_ ?_, second.oldSide_eq, second.newSide_eq⟩
    · rw [second.oldSide_eq]
      exact (behind olds i).imp id fun same => by rw [← same]
    · rw [second.newSide_eq]
      exact (behind news j).imp id fun same => by rw [← same]
  have joined := first.append moved
  rwa [List.take_append_drop, List.take_append_drop] at joined

/-! ## What two lists have in common -/

variable [DecidableEq α]

theorem commonPrefix_prefix_left (as bs : List α) : commonPrefix as bs <+: as := by
  induction as generalizing bs with
  | nil => exact List.nil_prefix
  | cons a as ih =>
      cases bs with
      | nil => exact List.nil_prefix
      | cons b bs =>
          simp only [commonPrefix]
          split
          · exact (List.prefix_cons_inj a).2 (ih bs)
          · exact List.nil_prefix

theorem commonPrefix_comm (as bs : List α) : commonPrefix as bs = commonPrefix bs as := by
  induction as generalizing bs with
  | nil => cases bs <;> rfl
  | cons a as ih =>
      cases bs with
      | nil => rfl
      | cons b bs =>
          simp only [commonPrefix]
          by_cases same : a = b
          · subst same
            simp [ih]
          · simp [same, Ne.symm same]

theorem commonPrefix_prefix_right (as bs : List α) : commonPrefix as bs <+: bs := by
  rw [commonPrefix_comm]
  exact commonPrefix_prefix_left bs as

@[simp]
theorem commonPrefix_self (as : List α) : commonPrefix as as = as := by
  induction as with
  | nil => rfl
  | cons a as ih => simp [commonPrefix, ih]

theorem commonSuffix_suffix_left (as bs : List α) : commonSuffix as bs <:+ as := by
  rw [← List.reverse_prefix, commonSuffix, List.reverse_reverse]
  exact commonPrefix_prefix_left _ _

theorem commonSuffix_suffix_right (as bs : List α) : commonSuffix as bs <:+ bs := by
  rw [← List.reverse_prefix, commonSuffix, List.reverse_reverse]
  exact commonPrefix_prefix_right _ _

/-! ## The search for a script -/

/-- What one round of the search comes to. It keeps what the lists begin and end with. The lines
between are replaced, or they are cut somewhere and each half has a script of its own. -/
theorem conquer_succ (front : Frontiers) (fuel old new : Nat) (olds news : List α) :
    ∃ head oldMid newMid tail inner,
      olds = head ++ oldMid ++ tail ∧ news = head ++ newMid ++ tail ∧
      (conquer front (fuel + 1) old new olds news).2 =
        run .keep head old new ++ inner ++
          run .keep tail (old + head.length + oldMid.length) (new + head.length + newMid.length) ∧
      (inner = run .delete oldMid (old + head.length) (new + head.length) ++
          run .insert newMid (old + head.length) (new + head.length) ∨
        oldMid ≠ [] ∧ newMid ≠ [] ∧ ∃ front₁ front₂ i j,
          inner =
            (conquer front₁ fuel (old + head.length) (new + head.length)
              (oldMid.take i) (newMid.take j)).2 ++
            (conquer front₂ fuel (old + head.length + i) (new + head.length + j)
              (oldMid.drop i) (newMid.drop j)).2) := by
  rw [conquer]
  split
  next front₁ inner found =>
  refine ⟨_, _, _, _, inner,
    eq_middle (commonPrefix_prefix_left olds news) (commonSuffix_suffix_left _ _),
    eq_middle (commonPrefix_prefix_right olds news) (commonSuffix_suffix_right _ _), rfl, ?_⟩
  split at found
  · exact .inl (congrArg Prod.snd found).symm
  · next filled =>
      rw [Bool.or_eq_true, List.isEmpty_iff, List.isEmpty_iff, not_or] at filled
      split at found
      · exact .inl (congrArg Prod.snd found).symm
      · exact .inr ⟨filled.1, filled.2, _, _, _, _, (congrArg Prod.snd found).symm⟩

theorem covers_conquer (front : Frontiers) (fuel old new : Nat) (olds news : List α) :
    Covers old new olds news (conquer front fuel old new olds news).2 := by
  induction fuel generalizing front old new olds news with
  | zero => exact .run_replace olds news old new
  | succ fuel ih =>
      obtain ⟨head, oldMid, newMid, tail, inner, rfl, rfl, script, shape⟩ :=
        conquer_succ front fuel old new olds news
      have middle : Covers (old + head.length) (new + head.length) oldMid newMid inner := by
        rcases shape with rfl | ⟨_, _, front₁, front₂, i, j, rfl⟩
        · exact .run_replace oldMid newMid _ _
        · exact .halves (ih front₁ _ _ _ _) (ih front₂ _ _ _ _)
      rw [script]
      refine ((Covers.run_keep head old new).append middle).append ?_
      simpa only [List.length_append, Nat.add_assoc] using Covers.run_keep tail _ _

theorem covers_script (olds news : List α) : Covers 0 0 olds news (script olds news) :=
  covers_conquer _ _ 0 0 olds news

theorem opensAt_conquer (front : Frontiers) (fuel old new : Nat) (olds news : List α) :
    OpensAt old (conquer front fuel old new olds news).2 := by
  induction fuel generalizing front old new olds news with
  | zero => exact (opensAt_run _ _ _ _).append fun _ => opensAt_run _ _ _ _
  | succ fuel ih =>
      obtain ⟨head, oldMid, newMid, tail, inner, rfl, rfl, script, shape⟩ :=
        conquer_succ front fuel old new olds news
      rw [script]
      refine ((opensAt_run _ _ _ _).append fun noHead => ?_).append fun alone => ?_
      · obtain rfl : head = [] := run_eq_nil_iff.1 noHead
        simp only [List.length_nil, Nat.add_zero] at shape
        rcases shape with rfl | ⟨filled, _, front₁, front₂, i, j, rfl⟩
        · exact (opensAt_run _ _ _ _).append fun _ => opensAt_run _ _ _ _
        · refine (ih _ _ _ _ _).append fun noFirst => ?_
          -- A first half without edits takes nothing from the list: it ends where it begins.
          have start := (covers_conquer front₁ fuel old new _ _).olds_eq_nil noFirst
          obtain rfl : i = 0 := (List.take_eq_nil_iff.1 start).resolve_right filled
          exact ih _ _ _ _ _
      · obtain ⟨noHead, noMiddle⟩ := List.append_eq_nil_iff.1 alone
        obtain rfl : head = [] := run_eq_nil_iff.1 noHead
        obtain rfl : oldMid = [] := by
          rcases shape with rfl | ⟨_, _, front₁, front₂, i, j, rfl⟩
          · exact run_eq_nil_iff.1 (List.append_eq_nil_iff.1 noMiddle).1
          · obtain ⟨noFirst, noSecond⟩ := List.append_eq_nil_iff.1 noMiddle
            have start := (covers_conquer front₁ fuel _ _ _ _).olds_eq_nil noFirst
            have rest := (covers_conquer front₂ fuel _ _ _ _).olds_eq_nil noSecond
            rw [← List.take_append_drop i oldMid, start, rest, List.append_nil]
        exact opensAt_run _ _ _ _

theorem opensAt_script (olds news : List α) : OpensAt 0 (script olds news) :=
  opensAt_conquer _ _ 0 0 olds news

theorem script_self (lines : List α) : script lines lines = run .keep lines 0 0 := by
  rw [script, conquer]
  simp [run, commonSuffix]

end Emend.Diff
