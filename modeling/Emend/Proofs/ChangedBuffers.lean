import Emend.Proofs.Replacements

/-! # Outcomes and changes

A rule whose two texts differ changes every buffer in which it makes replacements. If the texts have
different lengths the buffer does too; if they have the same length, nothing behind the first
replacement moves, and there the buffer has another text than before.
-/

namespace Emend

open Text

namespace Text

variable {target new text : List Char} {count : Nat}

theorem length_replaceFirst (new : List Char) (filled : target ≠ [])
    (enough : count ≤ occurrences target text) :
    (replaceFirst target new count text).length + count * target.length =
      text.length + count * new.length := by
  induction count generalizing text with
  | zero => simp [replaceFirst]
  | succ count ih =>
      cases found : cut? target text with
      | none =>
          rw [occurrences_of_cut?_eq_none found] at enough
          omega
      | some parts =>
          obtain ⟨before, rest⟩ := parts
          rw [occurrences_of_cut?_eq_some filled found] at enough
          have left : count ≤ occurrences target rest := by omega
          have later := ih left
          have split := congrArg List.length (eq_append_of_cut? found)
          rw [replaceFirst_of_cut?_eq_some found]
          simp only [List.length_append, Nat.add_mul, Nat.one_mul] at split ⊢
          omega

/-- Copies of one text for another one do not make up for each other, however many there are. -/
theorem replaceFirst_eq_self_iff (new : List Char) (filled : target ≠ [])
    (enough : count ≤ occurrences target text) :
    replaceFirst target new count text = text ↔ count = 0 ∨ new = target := by
  constructor
  · intro unchanged
    cases count with
    | zero => exact .inl rfl
    | succ count =>
        have lengths := length_replaceFirst new filled enough
        rw [unchanged] at lengths
        have sameLength : new.length = target.length :=
          (Nat.eq_of_mul_eq_mul_left (Nat.succ_pos count) (Nat.add_left_cancel lengths)).symm
        cases found : cut? target text with
        | none =>
            rw [occurrences_of_cut?_eq_none found] at enough
            omega
        | some parts =>
            obtain ⟨before, rest⟩ := parts
            -- Both sides go on from `before`, the one with the new text, the other with the target.
            have aligned : before ++ (new ++ replaceFirst target new count rest) =
                before ++ (target ++ rest) := by
              rw [← List.append_assoc, ← replaceFirst_of_cut?_eq_some found, unchanged,
                ← List.append_assoc, ← eq_append_of_cut? found]
            exact .inr (List.append_inj (List.append_cancel_left aligned) sameLength).1
  · rintro (rfl | rfl)
    · rfl
    · clear enough
      induction count generalizing text with
      | zero => rfl
      | succ count ih =>
          cases found : cut? new text with
          | none => rw [replaceFirst_of_cut?_eq_none found]
          | some parts =>
              rw [replaceFirst_of_cut?_eq_some found, ih, ← eq_append_of_cut? found]

end Text

theorem Outcome.isApplied_ofCount {n : Nat} : (ofCount n).isApplied = true ↔ n ≠ 0 := by
  cases n <;> simp [ofCount, isApplied]

namespace Rule

/-- A literal or a block with another new text is applied if the buffer changes, and only then. If
the new text is the old one the buffer never changes, whatever the outcome. -/
theorem applied_iff_changed {old : String} (filled : old ≠ "") (new buffer : String)
    {mode : ReplaceMode} {rule : Rule} (rewrites : Rewrites old new mode rule) :
    ∃ output outcome, rule.apply buffer = .ok ⟨output, outcome⟩ ∧
      (new ≠ old → (outcome.isApplied = true ↔ output ≠ buffer)) ∧
      (new = old → output = buffer) := by
  have oldFilled : old.toList ≠ [] := by simpa using filled
  have enough := mode.quota_le (occurrences old.toList buffer.toList)
  have same := replaceFirst_eq_self_iff new.toList oldFilled enough
  rw [String.toList_inj, ← String.ofList_inj, String.ofList_toList] at same
  refine ⟨_, _, (rewrites.apply_eq oldFilled buffer).trans (by rw [replaceText_eq oldFilled]),
    ?_, ?_⟩
  · intro other
    rw [Outcome.isApplied_ofCount, ne_eq, ne_eq, same]
    simp [other]
  · intro equal
    exact same.2 (.inr equal)

/-- The copies are shorter than what they replace, and what follows moves to where it looks the
same. -/
theorem applied_iff_changed_of_shift :
    "abab" ≠ "" ∧ Rewrites "abab" "ab" .all (literal "abab" "ab" .all) ∧ "ab" ≠ "abab" ∧
      (literal "abab" "ab" .all).apply "ababababx" = .ok ⟨"ababx", .applied 2⟩ ∧
      "ababx" ≠ "ababababx" := by
  have filled : "abab" ≠ "" := by decide
  have rewrites : Rewrites "abab" "ab" .all (literal "abab" "ab" .all) := .literal
  have other : "ab" ≠ "abab" := by decide
  have exact : (literal "abab" "ab" .all).apply "ababababx" = .ok ⟨"ababx", .applied 2⟩ :=
    eq_ok_of_toOption (by decide +kernel)
  obtain ⟨output, outcome, ran, changes, _⟩ := applied_iff_changed filled "ab" "ababababx" rewrites
  rw [exact] at ran
  cases ran
  exact ⟨filled, rewrites, other, exact, (changes other).1 rfl⟩

end Rule

end Emend
