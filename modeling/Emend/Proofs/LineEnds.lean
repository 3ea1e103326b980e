import Emend.Proofs.Occurrences
import Emend.Text.Line

/-! # Lines and the text they come from

Lines are cut without their ends, so texts that differ in line ends alone have the same lines. A
text in which every line ends with a line feed alone can be put together again from its lines.
-/

namespace Emend.Text

variable {text expected : List Char} {c : Char}

theorem lines_eq_nil_iff : lines text = [] ↔ text = [] := by
  constructor
  · intro none
    fun_induction lines text with
    | case1 => rfl
    | case2 => cases none
    | case3 => cases none
    | case4 c text _ _ ih => cases rest : lines text <;> simp [rest, consLine] at none
  · rintro rfl
    rfl

/-- A text with a line feed at its end. -/
def closed (text : List Char) : List Char :=
  if text = [] ∨ text.getLast? = some '\n' then text else text ++ ['\n']

theorem closed_cons (filled : text ≠ []) : closed (c :: text) = c :: closed text := by
  obtain ⟨d, rest, rfl⟩ := List.exists_cons_of_ne_nil filled
  simp only [closed, List.getLast?_cons_cons, reduceCtorEq, false_or]
  split <;> rfl

theorem prefix_closed (text : List Char) : text <+: closed text := by
  unfold closed
  split
  · exact List.prefix_refl text
  · exact List.prefix_append text _

/-- A text without a carriage return before a line feed is its lines, each with a line feed. -/
theorem flatMap_lines (plain : ¬ ['\r', '\n'] <:+: text) :
    (lines text).flatMap (· ++ ['\n']) = closed text := by
  fun_induction lines text with
  | case1 => rfl
  | case2 rest ih =>
      have later := ih fun inside => plain (inside.trans (List.suffix_cons _ _).isInfix)
      rw [List.flatMap_cons, later]
      by_cases last : rest = []
      · subst last
        rfl
      · rw [closed_cons last]
        rfl
  | case3 rest ih => exact absurd (List.prefix_append ['\r', '\n'] rest).isInfix plain
  | case4 c rest feed _ ih =>
      have later := ih fun inside => plain (inside.trans (List.suffix_cons _ _).isInfix)
      by_cases last : rest = []
      · subst last
        have other : c ≠ '\n' := feed
        simp [lines, consLine, closed, other]
      · rw [closed_cons last, ← later]
        cases shape : lines rest with
        | nil => exact absurd (lines_eq_nil_iff.1 shape) last
        | cons line more => rfl

/-- Line feeds end the lines of two texts alike: no carriage return stands before any of them, and
the second text ends with one only if the first does. -/
structure EndedAlike (text expected : List Char) : Prop where
  text_plain : ¬ ['\r', '\n'] <:+: text
  expected_plain : ¬ ['\r', '\n'] <:+: expected
  last : expected.getLast? = some '\n' → text.getLast? = some '\n'

theorem infix_of_infix_concat (inside : expected ++ [c] <:+: text ++ [c]) : expected <:+: text := by
  obtain ⟨before, behind, whole⟩ := inside
  rcases List.eq_nil_or_concat behind with rfl | ⟨rest, d, rfl⟩
  · rw [List.append_nil, ← List.append_assoc] at whole
    refine ⟨before, [], ?_⟩
    rw [List.append_nil]
    exact List.append_cancel_right whole
  · have front : before ++ (expected ++ [c]) ++ rest = text := by
      have cut := congrArg List.dropLast whole
      simpa [← List.append_assoc] using cut
    exact ⟨before, [c] ++ rest, by simpa using front⟩

/-- Where the lines of one text are among the lines of another that is ended alike, the text itself
is in the other. -/
theorem EndedAlike.contains (alike : EndedAlike text expected)
    (lined : lines expected <:+: lines text) : expected <:+: text := by
  have closedInside : closed expected <:+: closed text := by
    obtain ⟨before, behind, whole⟩ := lined
    rw [← flatMap_lines alike.text_plain, ← flatMap_lines alike.expected_plain, ← whole]
    simp only [List.flatMap_append]
    exact List.infix_append _ _ _
  by_cases empty : expected = []
  · subst empty
    exact List.nil_infix
  · have inside := (prefix_closed expected).isInfix.trans closedInside
    by_cases ended : text = [] ∨ text.getLast? = some '\n'
    · rw [closed, if_pos ended] at inside
      exact inside
    · have open_expected : ¬ (expected = [] ∨ expected.getLast? = some '\n') := by
        rintro (none | last)
        · exact empty none
        · exact ended (.inr (alike.last last))
      rw [closed, closed, if_neg ended, if_neg open_expected] at closedInside
      exact infix_of_infix_concat closedInside

end Emend.Text
