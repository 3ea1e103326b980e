import Emend.Diff.Change
import Emend.Proofs.FirstEdits

/-! # Where changes lie

A part of the difference of two texts has the place of its lines in each text that it has lines of.
In the other text its place is what the edits that it was made from told, and can be wrong.
-/

namespace Emend.Diff

/-- A part has lines, and the places of those that it has. -/
structure Change.Lies (part : Change) (old new : Nat) : Prop where
  filled : part.oldLines ≠ [] ∨ part.newLines ≠ []
  old_eq : part.oldLines ≠ [] → part.old = old
  new_eq : part.newLines ≠ [] → part.new = new

/-- Parts one behind the other, from given places on, that have all lines of two texts. -/
inductive Tells : (old new : Nat) → (olds news : List (List Char)) → List Change → Prop where
  | nil {old new} : Tells old new [] [] []
  | cons {old new olds news part parts} : part.Lies old new →
      Tells (old + part.oldLines.length) (new + part.newLines.length) olds news parts →
      Tells old new (part.oldLines ++ olds) (part.newLines ++ news) (part :: parts)

variable {old new : Nat} {olds news olds' news' : List (List Char)} {part : Change}
  {parts front back : List Change} {e : Edit (List Char)} {es : List (Edit (List Char))}

namespace Tells

theorem nil_iff : Tells old new olds news [] ↔ olds = [] ∧ news = [] := by
  constructor
  · intro tells
    cases tells
    exact ⟨rfl, rfl⟩
  · rintro ⟨rfl, rfl⟩
    exact .nil

theorem cons_iff :
    Tells old new olds news (part :: parts) ↔
      ∃ olds' news', olds = part.oldLines ++ olds' ∧ news = part.newLines ++ news' ∧
        part.Lies old new ∧
        Tells (old + part.oldLines.length) (new + part.newLines.length) olds' news' parts := by
  constructor
  · intro tells
    cases tells with
    | cons lies later => exact ⟨_, _, rfl, rfl, lies, later⟩
  · rintro ⟨olds', news', rfl, rfl, lies, later⟩
    exact .cons lies later

theorem append (first : Tells old new olds news front)
    (second : Tells (old + olds.length) (new + news.length) olds' news' back) :
    Tells old new (olds ++ olds') (news ++ news') (front ++ back) := by
  induction first with
  | nil => exact second
  | cons lies _ ih =>
      simp only [List.length_append, ← Nat.add_assoc] at second
      simp only [List.append_assoc, List.cons_append]
      exact .cons lies (ih second)

theorem split (tells : Tells old new olds news (front ++ back)) :
    ∃ olds₁ olds₂ news₁ news₂, olds = olds₁ ++ olds₂ ∧ news = news₁ ++ news₂ ∧
      Tells old new olds₁ news₁ front ∧
      Tells (old + olds₁.length) (new + news₁.length) olds₂ news₂ back := by
  induction front generalizing old new olds news with
  | nil => exact ⟨[], olds, [], news, rfl, rfl, .nil, tells⟩
  | cons part front ih =>
      obtain ⟨olds', news', rfl, rfl, lies, later⟩ := cons_iff.1 tells
      obtain ⟨olds₁, olds₂, news₁, news₂, rfl, rfl, first, second⟩ := ih later
      refine ⟨part.oldLines ++ olds₁, olds₂, part.newLines ++ news₁, news₂,
        (List.append_assoc ..).symm, (List.append_assoc ..).symm, .cons lies first, ?_⟩
      simpa only [List.length_append, Nat.add_assoc] using second

theorem flatMap_oldLines (tells : Tells old new olds news parts) :
    parts.flatMap Change.oldLines = olds := by
  induction tells with
  | nil => rfl
  | cons _ _ ih => rw [List.flatMap_cons, ih]

theorem flatMap_newLines (tells : Tells old new olds news parts) :
    parts.flatMap Change.newLines = news := by
  induction tells with
  | nil => rfl
  | cons _ _ ih => rw [List.flatMap_cons, ih]

end Tells

/-! ## From edits to parts -/

theorem Edit.Lies.same {lines : List (List Char)} {o n : Nat}
    (lies : Edit.Lies ⟨.keep, lines, o, n⟩ old new) (more : List (List Char)) :
    (Change.same (lines ++ more) o n).Lies old new where
  filled := .inl (by simp [Change.oldLines, lies.filled])
  old_eq _ := lies.old_eq (by simp)
  new_eq _ := lies.new_eq (by simp)

theorem Tells.addEdit (lies : e.Lies old new)
    (tells : Tells (old + e.oldLines.length) (new + e.newLines.length) olds news parts) :
    Tells old new (e.oldLines ++ olds) (e.newLines ++ news) (addEdit e parts) := by
  obtain ⟨kind, lines, o, n⟩ := e
  have filled : lines ≠ [] := lies.filled
  -- An edit becomes a part of its own unless the first part is of its sort.
  cases kind with
  | keep =>
      have alone : (Change.same lines o n).Lies old new := by simpa using lies.same []
      rcases parts with _ | ⟨more | ⟨removed, added⟩, rest⟩
      · exact .cons alone tells
      · obtain ⟨olds, news, rfl, rfl, _, later⟩ := cons_iff.1 tells
        refine cons_iff.2 ⟨olds, news, ?_, ?_, lies.same more, ?_⟩
        · simp [Edit.oldLines, Change.oldLines]
        · simp [Edit.newLines, Change.newLines]
        · simpa [Edit.oldLines, Edit.newLines, Change.oldLines, Change.newLines, Nat.add_assoc]
            using later
      · exact .cons alone tells
  | delete =>
      have placed : o = old := lies.old_eq (by simp)
      have alone : (Change.change lines [] o n).Lies old new :=
        ⟨.inl filled, fun _ => placed, fun some => absurd rfl some⟩
      rcases parts with _ | ⟨more | ⟨removed, added, o', n'⟩, rest⟩
      · exact .cons alone tells
      · exact .cons alone tells
      · obtain ⟨olds, news, rfl, rfl, lies', later⟩ := cons_iff.1 tells
        refine cons_iff.2 ⟨olds, news, ?_, rfl, ⟨?_, fun _ => placed, fun some => ?_⟩, ?_⟩
        · simp [Edit.oldLines, Change.oldLines]
        · exact .inl (by simp [Change.oldLines, filled])
        · have told : n' = new := lies'.new_eq some
          simpa [Change.new, show added ≠ [] from some] using told
        · simpa [Edit.oldLines, Edit.newLines, Change.oldLines, Change.newLines, Nat.add_assoc]
            using later
  | insert =>
      have placed : n = new := lies.new_eq (by simp)
      have alone : (Change.change [] lines o n).Lies old new :=
        ⟨.inr filled, fun some => absurd rfl some, fun _ => placed⟩
      rcases parts with _ | ⟨more | ⟨removed, added, o', n'⟩, rest⟩
      · exact .cons alone tells
      · exact .cons alone tells
      · obtain ⟨olds, news, rfl, rfl, lies', later⟩ := cons_iff.1 tells
        refine cons_iff.2 ⟨olds, news, rfl, ?_, ⟨?_, fun some => ?_, fun _ => placed⟩, ?_⟩
        · simp [Edit.newLines, Change.newLines]
        · exact .inr (by simp [Change.newLines, filled])
        · have told : o' = old := lies'.old_eq some
          simpa [Change.old, show removed ≠ [] from some] using told
        · simpa [Edit.oldLines, Edit.newLines, Change.oldLines, Change.newLines, Nat.add_assoc]
            using later

theorem Covers.tells (covers : Covers old new olds news es) :
    Tells old new olds news (changes es) := by
  induction es generalizing old new olds news with
  | nil => exact Tells.nil_iff.2 ⟨covers.oldSide_eq.symm, covers.newSide_eq.symm⟩
  | cons e es ih =>
      obtain ⟨olds, news, rfl, rfl, lies, later⟩ := cons_iff.1 covers
      exact (ih later).addEdit lies

/-- A part without lines of the first text has the place that the edit before it told. -/
theorem old_addEdit {first : Change} (head : first ∈ (addEdit e parts).head?)
    (none : first.oldLines = []) : first.old = e.old := by
  obtain ⟨kind, lines, o, n⟩ := e
  cases kind <;> rcases parts with _ | ⟨_ | _, _⟩ <;> cases head <;> try rfl
  case insert =>
    simp only [Change.oldLines] at none
    simp [Change.old, none]

theorem old_head_changes (covers : Covers old new olds news es) (opens : OpensAt old es) :
    ∀ first ∈ (changes es).head?, first.old = old := by
  intro first head
  cases es with
  | nil => cases head
  | cons e es =>
      by_cases none : first.oldLines = []
      · rw [old_addEdit head none]
        exact opens e rfl
      · have tells := covers.tells
        cases shape : changes (e :: es) with
        | nil => simp [shape] at head
        | cons part parts =>
            obtain rfl : part = first := by simpa [shape] using head
            rw [shape] at tells
            obtain ⟨_, _, _, _, lies, _⟩ := Tells.cons_iff.1 tells
            exact lies.old_eq none

/-! ## The difference of two texts -/

variable (a b : String)

theorem tells_between :
    Tells 0 0 (Text.endedLines a.toList) (Text.endedLines b.toList) (between a b) :=
  (covers_compact (covers_script _ _)).tells

theorem old_head_between : ∀ first ∈ (between a b).head?, first.old = 0 := by
  have covers :=
    covers_compact (covers_script (Text.endedLines a.toList) (Text.endedLines b.toList))
  refine old_head_changes covers fun e head => ?_
  by_cases inserts : e.kind = .insert
  · exact grounded_compact_script _ _ e head inserts
  · cases shape : compact (script (Text.endedLines a.toList) (Text.endedLines b.toList)) with
    | nil => simp [shape] at head
    | cons first rest =>
        obtain rfl : first = e := by simpa [shape] using head
        rw [shape] at covers
        exact covers.head_lies.old_eq inserts

theorem between_self : between a a = changes (run .keep (Text.endedLines a.toList) 0 0) := by
  rw [between, script_self, compact_of_kept]
  intro e seen
  obtain ⟨_, rfl⟩ : _ ∧ e = _ := by simpa [run] using seen
  rfl

end Emend.Diff
