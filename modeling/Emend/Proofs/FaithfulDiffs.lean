import Emend.Proofs.PatchReading
import Emend.Report

/-! # Unified diffs as patches

The unified diff of a report, read as a patch and applied to the text before the rules, gives the
text behind them. For this the lines of its hunks and their places in the text before are enough.
What else the headers say is true only if the difference begins and ends in place.
-/

namespace Emend.Diff

variable {old new : Nat} {olds news : List (List Char)} {parts : List Change} {hs : List Hunk}

theorem Tells.mem_of_marked (tells : Tells old new olds news parts) :
    ∀ line ∈ parts.flatMap Change.marked, line.2 ∈ olds ∨ line.2 ∈ news := by
  intro line seen
  obtain ⟨part, shown, seen⟩ := List.mem_flatMap.1 seen
  rw [← tells.flatMap_oldLines, ← tells.flatMap_newLines]
  have here : line.2 ∈ part.oldLines ∨ line.2 ∈ part.newLines := by
    cases part with
    | same lines =>
        obtain ⟨text, kept, rfl⟩ := List.mem_map.1 seen
        exact .inl kept
    | change removed added =>
        rcases List.mem_append.1 seen with seen | seen
        · obtain ⟨text, gone, rfl⟩ := List.mem_map.1 seen
          exact .inl gone
        · obtain ⟨text, come, rfl⟩ := List.mem_map.1 seen
          exact .inr come
  exact here.imp (fun mem => List.mem_flatMap.2 ⟨part, shown, mem⟩)
    fun mem => List.mem_flatMap.2 ⟨part, shown, mem⟩

namespace Shown

theorem filled (shown : Shown old new olds news hs) : ∀ hunk ∈ hs, hunk ≠ [] := by
  induction shown with
  | rest => exact nofun
  | hunk some _ _ _ _ ih => exact List.forall_mem_cons.2 ⟨some, ih⟩

theorem mem_of_marked (shown : Shown old new olds news hs) :
    ∀ hunk ∈ hs, ∀ line ∈ hunk.flatMap Change.marked, line.2 ∈ olds ∨ line.2 ∈ news := by
  induction shown with
  | rest => exact nofun
  | hunk _ _ tells _ _ ih =>
      refine List.forall_mem_cons.2 ⟨fun line seen => ?_, fun hunk shown line seen => ?_⟩
      · exact (tells.mem_of_marked line seen).imp
          (fun mem => by simp [mem]) fun mem => by simp [mem]
      · exact (ih hunk shown line seen).imp (fun mem => by simp [mem]) fun mem => by simp [mem]

/-- Hunks lead from one text to the other when each is put at its place. -/
theorem applied (shown : Shown old new olds news hs) :
    Patch.applyFrom false old new olds (hs.map asRead) = some news := by
  induction shown with
  | rest => rfl
  | hunk some starts tells _ _ ih =>
      rw [List.map_cons, ← oldOf_asRead tells, Patch.applyFrom_cons (place_asRead some starts),
        oldOf_asRead tells, newOf_asRead tells, ih, Option.map_some]

theorem increasing (shown : Shown old new olds news hs) :
    (∀ hunk ∈ hs.map asRead, old ≤ hunk.old.place) ∧
      (hs.map asRead).Pairwise fun one two => one.old.place < two.old.place := by
  induction shown with
  | rest => exact ⟨nofun, .nil⟩
  | @hunk old new gap olds news olds' news' hunk hs some starts tells more _ ih =>
      obtain ⟨behind, increasing⟩ := ih
      have place := place_asRead some starts
      refine ⟨List.forall_mem_cons.2 ⟨by omega, fun next seen => ?_⟩,
        .cons (fun next seen => ?_) increasing⟩
      · have := behind next seen
        omega
      · have others : hs ≠ [] := fun none => by simp [none] at seen
        have lines := List.length_pos_iff.2 (more others)
        have := behind next seen
        omega

end Shown

/-! ## The diff of two texts -/

variable (a b : String)

theorem shown_between :
    Shown 0 0 (Text.endedLines a.toList) (Text.endedLines b.toList) (hunks (between a b)) ∧
      (Patch.AllCounted 0 0 ((hunks (between a b)).map asRead) ↔
        EndsInPlace 0 0 (Text.endedLines a.toList) (Text.endedLines b.toList) (between a b)) :=
  shown_hunks (tells_between a b) (old_head_between a b)

theorem hunks_between_eq_nil_iff : hunks (between a b) = [] ↔ a = b := by
  constructor
  · intro none
    have applied := (shown_between a b).1.applied
    rw [none] at applied
    have same := congrArg List.flatten (Option.some.inj applied)
    rw [Text.flatten_endedLines, Text.flatten_endedLines] at same
    exact String.toList_injective same
  · rintro rfl
    rw [between_self]
    cases Text.endedLines a.toList with
    | nil => rfl
    | cons line lines =>
        simp only [run, changes, addEdit, hunks, trimHead, trimTail, cutHunks, List.isEmpty_cons,
          Bool.false_eq_true, if_false, List.foldr_cons, List.foldr_nil, List.length_take]
        rw [if_neg (Nat.not_lt.2 ((Nat.min_le_left ..).trans (by decide)))]

theorem unified_eq_empty_iff (name : String) : unified name a b = "" ↔ a = b := by
  rw [← hunks_between_eq_nil_iff a b, unified]
  split
  · next none => exact iff_of_true rfl none
  · next changed => exact iff_of_false (by simp) changed

end Emend.Diff

namespace Emend.Report

open Diff

theorem read?_unifiedDiff {r : Report} (changed : r.before ≠ r.buffer) :
    Patch.read? r.file r.unifiedDiff = some ((hunks (between r.before r.buffer)).map asRead) := by
  have shown := (shown_between r.before r.buffer).1
  have some : hunks (between r.before r.buffer) ≠ [] := mt (hunks_between_eq_nil_iff _ _).1 changed
  exact read?_unified r.file r.before r.buffer some shown.filled fun hunk seen line here =>
    (shown.mem_of_marked hunk seen line here).elim (isLine_supplied _ _) (isLine_supplied _ _)

theorem patched?_between (r : Report) :
    Patch.patched? false ((hunks (between r.before r.buffer)).map asRead) r.before = some r.buffer ∧
      (Patch.patched? true ((hunks (between r.before r.buffer)).map asRead) r.before =
          some r.buffer ↔
        EndsInPlace 0 0 (Text.endedLines r.before.toList) (Text.endedLines r.buffer.toList)
          (between r.before r.buffer)) := by
  obtain ⟨shown, counted⟩ := shown_between r.before r.buffer
  have joined : String.ofList (Text.endedLines r.buffer.toList).flatten = r.buffer := by
    rw [Text.flatten_endedLines, String.ofList_toList]
  constructor
  · rw [Patch.patched?_of_applyFrom shown.applied, joined]
  · rw [← counted, ← Patch.patched?_strict_iff shown.applied, joined]

/-- The diff is right in full, with all that its headers say, if the difference begins and ends with
lines that both texts have. -/
theorem patched?_strict_of_same {r : Report} {lines lines' : List (List Char)} {o n o' n' : Nat}
    {front back : List Change} (changed : r.before ≠ r.buffer)
    (first : between r.before r.buffer = .same lines o n :: back)
    (last : between r.before r.buffer = front ++ [.same lines' o' n']) :
    ∃ hunks, Patch.read? r.file r.unifiedDiff = some hunks ∧
      Patch.patched? true hunks r.before = some r.buffer :=
  ⟨_, read?_unifiedDiff changed,
    r.patched?_between.2.2 ((tells_between r.before r.buffer).endsInPlace_of_same first last)⟩

/-- A report has a unified diff if the text is different behind its rules. The diff is read as hunks
that turn the text before the rules into the one behind them, each put at the place that its header
gives in the text before. There that text has the lines that the hunk keeps and removes. The hunks
stand in order and have no lines in common. The numbers of lines in the headers and the places in
the text behind the rules are right as well if, and only if, the difference begins and ends in
place. -/
theorem unifiedDiff_patches (r : Report) :
    (r.unifiedDiff = "" ↔ r.changed = false) ∧
      (r.unifiedDiff = "" ∨ ∃ hunks, Patch.read? r.file r.unifiedDiff = some hunks ∧
        Patch.patched? false hunks r.before = some r.buffer ∧
        (∀ hunk ∈ hunks,
          oldOf hunk.lines <+: (Text.endedLines r.before.toList).drop hunk.old.place) ∧
        hunks.Pairwise (fun one two => one.old.place < two.old.place ∧
          one.old.place + (oldOf one.lines).length ≤ two.old.place) ∧
        (Patch.patched? true hunks r.before = some r.buffer ↔
          EndsInPlace 0 0 (Text.endedLines r.before.toList) (Text.endedLines r.buffer.toList)
            (between r.before r.buffer))) := by
  refine ⟨by simp [unifiedDiff, changed, unified_eq_empty_iff], ?_⟩
  by_cases same : r.before = r.buffer
  · exact .inl ((unified_eq_empty_iff _ _ _).2 same)
  · obtain ⟨patched, inPlace⟩ := r.patched?_between
    obtain ⟨fits, apart⟩ := Patch.fits_of_patched? patched
    have increasing := (shown_between r.before r.buffer).1.increasing.2
    exact .inr ⟨_, read?_unifiedDiff same, patched, fits, increasing.and apart, inPlace⟩

/-- An insertion has moved past a deletion. The second line is kept, and the header says that the
hunk has one line of the text before and begins at the second line of the text behind. -/
theorem unifiedDiff_miscounted :
    let r : Report := ⟨"f", [], "b\na\n", "a\na\n", false⟩
    r.changed = true ∧
      r.unifiedDiff = "--- f (original)\n+++ f (patched)\n@@ -1 +2 @@\n-b\n a\n+a\n" ∧
      ∃ hunks, Patch.read? r.file r.unifiedDiff = some hunks ∧
        Patch.patched? true hunks r.before = none := by
  decide +kernel

end Emend.Report
