import Emend.Proofs.Replacements

/-! # One occurrence after the other

The two modes differ in where they look next: the one that replaces every occurrence goes on behind
the text that it has written, the other starts again and finds that text in the buffer. If the text
cannot overlap the target the difference does not show.
-/

namespace Emend

open Text

namespace Text

variable {target new text before rest : List Char}

theorem replaceFirst_past_first (apart : Apart target new)
    (found : cut? target text = some (before, rest)) (count : Nat) :
    replaceFirst target new count (before ++ new ++ rest) =
      before ++ new ++ replaceFirst target new count rest := by
  have absent := cut?_eq_none_iff.2 (not_infix_before apart.ne_nil found)
  exact replaceFirst_append_of_apart apart absent new count rest

theorem occurrences_past_first (apart : Apart target new)
    (found : cut? target text = some (before, rest)) :
    occurrences target text = occurrences target (before ++ new ++ rest) + 1 := by
  have none := (occurrences_eq_zero_iff apart.ne_nil).2 (not_infix_before apart.ne_nil found)
  rw [occurrences_of_cut?_eq_some apart.ne_nil found, occurrences_append_of_apart apart, none,
    Nat.zero_add]

end Text

namespace Rule

/-- A rule is applied to a buffer, then to what it made of it, and so on. It makes one replacement
each time. -/
inductive Repeats (rule : Rule) : (times : Nat) → (buffer final : String) → Prop where
  | refl (buffer : String) : Repeats rule 0 buffer buffer
  | step {times : Nat} {buffer next final : String} :
      rule.apply buffer = .ok ⟨next, .applied 1⟩ → Repeats rule times next final →
      Repeats rule (times + 1) buffer final

variable {rule : Rule} {mode : ReplaceMode} {old new buffer : String} {times : Nat}

/-- The buffers in between have ever fewer occurrences, but the same text comes of all of them when
the rest is replaced. -/
theorem Rewrites.repeats (rewrites : Rewrites old new .first rule)
    (apart : Apart old.toList new.toList)
    (counted : occurrences old.toList buffer.toList = times) :
    Repeats rule times buffer
      (String.ofList (replaceFirst old.toList new.toList times buffer.toList)) := by
  induction times generalizing buffer with
  | zero =>
      rw [replaceFirst, String.ofList_toList]
      exact .refl buffer
  | succ times ih =>
      cases found : cut? old.toList buffer.toList with
      | none =>
          rw [occurrences_of_cut?_eq_none found] at counted
          cases counted
      | some parts =>
          obtain ⟨before, rest⟩ := parts
          have fewer : occurrences old.toList (before ++ new.toList ++ rest) = times := by
            rw [occurrences_past_first apart found] at counted
            omega
          rw [← String.toList_ofList (l := before ++ new.toList ++ rest)] at fewer
          have later := ih fewer
          rw [String.toList_ofList, replaceFirst_past_first apart found] at later
          rw [replaceFirst_of_cut?_eq_some found]
          exact .step (rewrites.apply_first apart.ne_nil found) later

/-- A rule for one occurrence, applied as often as the rule for all of them counts, comes to the
same buffer. The target is gone from it, and neither rule finds any more. -/
theorem all_eq_first_repeated (apart : Apart old.toList new.toList) (buffer : String) :
    ∃ times final, (literal old new .all).apply buffer = .ok ⟨final, .ofCount times⟩ ∧
      (∀ rule, Rewrites old new .first rule → Repeats rule times buffer final) ∧
      ¬ old.toList <:+: final.toList ∧
      ∀ mode rule, Rewrites old new mode rule → rule.apply final = .ok ⟨final, .noMatch⟩ := by
  have all : (literal old new .all).apply buffer = .ok (replaceText .all old new buffer) :=
    Rewrites.literal.apply_eq apart.ne_nil buffer
  rw [replaceText_eq apart.ne_nil] at all
  have gone := (occurrences_eq_zero_iff apart.ne_nil).1
    (occurrences_replaceFirst_self apart buffer.toList)
  rw [← String.toList_ofList (l := replaceFirst _ _ _ _)] at gone
  refine ⟨_, _, all, ?_, gone, ?_⟩
  · intro rule rewrites
    exact rewrites.repeats apart rfl
  · intro mode rule rewrites
    exact rewrites.apply_of_absent apart.ne_nil gone

/-- The target overlaps itself, and there are three occurrences. -/
theorem all_eq_first_repeated_of_overlaps :
    Apart "aba".toList "cd".toList ∧
    (literal "aba" "cd" .all).apply "ababaabaxaba" = .ok ⟨"cdbacdxcd", .applied 3⟩ ∧
    Repeats (block "aba" "cd") 3 "ababaabaxaba" "cdbacdxcd" ∧
    ¬ "aba".toList <:+: "cdbacdxcd".toList ∧
    (literal "aba" "cd" .first).apply "cdbacdxcd" = .ok ⟨"cdbacdxcd", .noMatch⟩ := by
  have apart : Apart "aba".toList "cd".toList := by decide
  have exact : (literal "aba" "cd" .all).apply "ababaabaxaba" = .ok ⟨"cdbacdxcd", .applied 3⟩ :=
    eq_ok_of_toOption (by decide +kernel)
  obtain ⟨times, final, all, repeats, gone, none⟩ := all_eq_first_repeated apart "ababaabaxaba"
  rw [exact] at all
  obtain ⟨rfl, counted⟩ := Application.mk.inj (Except.ok.inj all)
  obtain rfl := Outcome.eq_of_ofCount_eq_applied counted.symm
  exact ⟨apart, exact, repeats _ .block, gone, none .first _ .literal⟩

end Rule

end Emend
