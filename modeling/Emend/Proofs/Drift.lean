import Emend.Proofs.EditDistance
import Emend.Proofs.NearMissSearch
import Mathlib.Algebra.Order.Field.Rat
import Mathlib.Tactic.IntervalCases
import Mathlib.Tactic.Linarith
import Mathlib.Tactic.NormNum
import Mathlib.Tactic.Positivity

/-! # Lines that drifted

With exact arithmetic the score of a window is one exactly if its lines are the expected ones but
for white space at their ends, and it is never above one. A window of such lines is therefore
always pointed out, and the first of them is.
-/

namespace Emend

/-- Exact scores. -/
instance : Score ℚ where
  ratio n m := n / m
  fromOne x := 1 - x
  add x y := x + y
  share x n := x / n
  atMost x y := x ≤ y

theorem Score.atMost_rat_iff {x y : ℚ} : Score.atMost x y = true ↔ x ≤ y := decide_eq_true_iff

instance : Score.Ordered ℚ where
  total x y := by
    simp only [Score.atMost_rat_iff]
    exact le_total x y
  trans := by
    intro x y z
    simp only [Score.atMost_rat_iff]
    exact le_trans

/-- A score from zero to one, which is one exactly for things that are the same. -/
structure Graded (score : ℚ) (same : Prop) : Prop where
  nonneg : 0 ≤ score
  le_one : score ≤ 1
  eq_one_iff : score = 1 ↔ same

theorem graded_one {same : Prop} (holds : same) : Graded 1 same :=
  ⟨zero_le_one, le_refl 1, iff_of_true rfl holds⟩

theorem graded_rest {part whole : Nat} (positive : 0 < whole) (bound : part ≤ whole) :
    Graded (1 - part / whole) (part = 0) := by
  have above : (0 : ℚ) < whole := by exact_mod_cast positive
  have share : (part : ℚ) / whole ≤ 1 := by
    rw [div_le_one above]
    exact_mod_cast bound
  refine ⟨by linarith, sub_le_self 1 (by positivity), ?_⟩
  rw [sub_eq_self, div_eq_zero_iff, or_iff_left above.ne', Nat.cast_eq_zero]

namespace NearMiss

open Text

variable {window wanted lines : List (List Char)} {start : Nat}

theorem graded_textScore (a b : List Char) : Graded (textScore a b) (a = b) := by
  by_cases empty : a = [] ∧ b = []
  · obtain ⟨rfl, rfl⟩ := empty
    have one : (textScore [] [] : ℚ) = 1 := by simp [textScore, Score.ratio]
    rw [one]
    exact graded_one rfl
  · have positive : 0 < max a.length b.length := by
      by_contra zero
      refine empty ⟨List.length_eq_zero_iff.1 ?_, List.length_eq_zero_iff.1 ?_⟩ <;> omega
    have score : (textScore a b : ℚ) = 1 - editDistance a b / (max a.length b.length : Nat) := by
      simp [textScore, Score.ratio, Score.fromOne, empty]
    rw [score, ← editDistance_eq_zero_iff]
    exact graded_rest positive (editDistance_le a b)

/-- The two ways to score a line agree on what the best score means. -/
theorem graded_lineScore (found expected : List Char) :
    Graded (lineScore found expected) (trim found = trim expected) := by
  unfold lineScore
  split
  · next same =>
      have one : (Score.ratio 1 1 : ℚ) = 1 := by simp [Score.ratio]
      rw [one]
      exact graded_one (congrArg trim same)
  · exact graded_textScore _ _

/-- Each line adds at most one, and one exactly if it is as expected. -/
theorem sumScores_bounds (size : window.length = wanted.length) (total : ℚ) :
    total ≤ sumScores total window wanted ∧
      sumScores total window wanted ≤ total + wanted.length ∧
      (sumScores total window wanted = total + wanted.length ↔
        window.map trim = wanted.map trim) := by
  -- The scores are added from the first line on, so the total changes along the window.
  induction window generalizing wanted total with
  | nil =>
      obtain rfl := List.length_eq_zero_iff.1 size.symm
      simp [sumScores]
  | cons found window ih =>
      cases wanted with
      | nil => cases size
      | cons expected wanted =>
          obtain ⟨nonneg, le_one, eq_one_iff⟩ := graded_lineScore found expected
          obtain ⟨low, high, full⟩ := ih (Nat.succ.inj size) (total + lineScore found expected)
          have step : sumScores total (found :: window) (expected :: wanted) =
              sumScores (total + lineScore found expected) window wanted := rfl
          simp only [step, List.length_cons, List.map_cons, List.cons.injEq, Nat.cast_add,
            Nat.cast_one, ← eq_one_iff, ← full]
          refine ⟨by linarith, by linarith, ?_⟩
          constructor
          · intro sum
            have one : lineScore found expected = (1 : ℚ) := by linarith
            exact ⟨one, by linarith⟩
          · rintro ⟨one, sum⟩
            linarith

theorem graded_windowScore (size : window.length = wanted.length) (filled : wanted ≠ []) :
    Graded (windowScore window wanted) (window.map trim = wanted.map trim) := by
  have positive : (0 : ℚ) < wanted.length := by exact_mod_cast List.length_pos_iff.2 filled
  have score : (windowScore window wanted : ℚ) = sumScores 0 window wanted / wanted.length := by
    simp [windowScore, Score.ratio, Score.share]
  obtain ⟨low, high, full⟩ := sumScores_bounds size 0
  rw [zero_add] at high full
  rw [score]
  exact ⟨div_nonneg low positive.le, (div_le_one positive).2 high,
    (div_eq_one_iff_eq positive.ne').trans full⟩

/-- From a line on a buffer has the wanted lines but for white space at their ends. -/
structure Drifted (lines wanted : List (List Char)) (start : Nat) : Prop where
  filled : wanted ≠ []
  inside : start + wanted.length ≤ lines.length
  same : ((lines.drop start).take wanted.length).map trim = wanted.map trim

theorem graded_scoreAt (filled : wanted ≠ []) (inside : start + wanted.length ≤ lines.length) :
    Graded (scoreAt lines wanted start) (Drifted lines wanted start) := by
  obtain ⟨nonneg, le_one, eq_one_iff⟩ := graded_windowScore (length_window inside) filled
  refine ⟨nonneg, le_one, eq_one_iff.trans ?_⟩
  exact ⟨fun same => ⟨filled, inside, same⟩, fun drifted => drifted.same⟩

theorem Drifted.scoreAt_eq (drifted : Drifted lines wanted start) :
    (scoreAt lines wanted start : ℚ) = 1 :=
  (graded_scoreAt drifted.filled drifted.inside).eq_one_iff.2 drifted

/-- If a window drifted, then the best one did, and it is the first that did. -/
theorem EarliestBest.first_drifted (best : EarliestBest ℚ lines wanted start) {other : Nat}
    (drifted : Drifted lines wanted other) :
    Drifted lines wanted start ∧ ∀ earlier < start, ¬ Drifted lines wanted earlier := by
  have graded := graded_scoreAt drifted.filled best.inside
  have top : (scoreAt lines wanted start : ℚ) = 1 := by
    have above := Score.atMost_rat_iff.1 (best.best other drifted.inside)
    rw [drifted.scoreAt_eq] at above
    exact le_antisymm graded.le_one above
  refine ⟨graded.eq_one_iff.1 top, fun earlier before sooner => ?_⟩
  have lower := best.first earlier before
  rw [top, sooner.scoreAt_eq] at lower
  simp [Score.atMost_rat_iff.2 (le_refl (1 : ℚ))] at lower

theorem Searched.first_drifted {minimum : ℚ} {hint : NearMiss ℚ}
    (searched : Searched minimum lines wanted (some hint)) (top : hint.similarity = 1) :
    ∃ start, hint.line = start + 1 ∧ Drifted lines wanted start ∧
      ∀ earlier < start, ¬ Drifted lines wanted earlier := by
  cases searched with
  | hint filled best =>
      have drifted := (graded_scoreAt filled best.inside).eq_one_iff.1 top
      exact ⟨_, rfl, best.first_drifted drifted⟩

theorem Searched.exists_of_drifted {minimum : ℚ} {result : Option (NearMiss ℚ)}
    (searched : Searched minimum lines wanted result) (low : minimum ≤ 1)
    (drifted : Drifted lines wanted start) : ∃ hint, result = some hint ∧ hint.similarity = 1 := by
  cases searched with
  | nothing short =>
      have inside := drifted.inside
      rcases short with empty | short
      · exact (drifted.filled empty).elim
      · omega
  | unlike _ best unlike =>
      have top := (best.first_drifted drifted).1.scoreAt_eq
      rw [top, Score.atMost_rat_iff.2 low] at unlike
      cases unlike
  | hint _ best => exact ⟨_, rfl, (best.first_drifted drifted).1.scoreAt_eq⟩

/-- Scores are shares of one, and a window has the whole of it exactly if its lines are as expected
but for white space at their ends. If a buffer has such a window, the first one is pointed out. -/
theorem drift_pointed_out :
    (∀ window wanted : List (List Char), window.length = wanted.length → wanted ≠ [] →
      0 ≤ (windowScore window wanted : ℚ) ∧ (windowScore window wanted : ℚ) ≤ 1 ∧
        ((windowScore window wanted : ℚ) = 1 ↔ window.map trim = wanted.map trim)) ∧
    ∀ buffer expected : String,
      (∃ start, Drifted (Text.lines buffer.toList) (Text.lines expected.toList) start) →
      ∃ hint, find? (leastScore : ℚ) buffer expected = some hint ∧ hint.similarity = 1 ∧
        ∃ start, hint.line = start + 1 ∧
          Drifted (Text.lines buffer.toList) (Text.lines expected.toList) start ∧
          ∀ earlier < start,
            ¬ Drifted (Text.lines buffer.toList) (Text.lines expected.toList) earlier := by
  constructor
  · intro window wanted size filled
    obtain ⟨nonneg, le_one, eq_one_iff⟩ := graded_windowScore size filled
    exact ⟨nonneg, le_one, eq_one_iff⟩
  · rintro buffer expected ⟨start, drifted⟩
    have low : (leastScore : ℚ) ≤ 1 := by norm_num [leastScore, Score.ratio]
    have searched := searched_find? (leastScore : ℚ) buffer expected
    obtain ⟨hint, found, top⟩ := searched.exists_of_drifted low drifted
    rw [found] at searched
    exact ⟨hint, found, top, searched.first_drifted top⟩

/-- The first two lines are nearly the expected ones, and the last two are but for a tab. -/
theorem drift_pointed_out_behind_near_miss :
    Drifted (Text.lines "if y:\n  go(x)\nif x:\n\tgo(x)\n".toList)
      (Text.lines "if x:\n  go(x)\n".toList) 2 ∧
    ∃ hint, find? (leastScore : ℚ) "if y:\n  go(x)\nif x:\n\tgo(x)\n" "if x:\n  go(x)\n" =
      some hint ∧ hint.similarity = 1 ∧ hint.line = 3 := by
  have drifted : Drifted (Text.lines "if y:\n  go(x)\nif x:\n\tgo(x)\n".toList)
      (Text.lines "if x:\n  go(x)\n".toList) 2 := ⟨by decide, by decide, by decide⟩
  obtain ⟨hint, found, top, start, placed, here, first⟩ := drift_pointed_out.2 _ _ ⟨2, drifted⟩
  have third : start = 2 := by
    have early : start ≤ 2 := not_lt.1 fun later => first 2 later drifted
    interval_cases start
    · exact absurd here.same (by decide)
    · exact absurd here.same (by decide)
    · rfl
  rw [third] at placed
  exact ⟨drifted, hint, found, top, placed⟩

end NearMiss

end Emend
