import Emend.Proofs.Replacements

/-! # Rules that undo each other

What a rule has written can be told from what was there before if the text is not in the buffer and
does not overlap itself. Then the rule that goes the other way finds the written copies, all of them
and nothing else.
-/

namespace Emend

open Text

namespace Text

variable {target new text before rest : List Char} {count : Nat}

/-- No start of a text is also an end of it, apart from the empty one and the whole text. -/
def Unbordered (text : List Char) : Prop :=
  ∀ part, part ≠ [] → part ≠ text → part <+: text → ¬ part <:+ text

theorem unbordered_iff :
    Unbordered text ↔ ∀ part ∈ text.inits, part ≠ [] → part ≠ text → ¬ part <:+ text := by
  simp only [List.mem_inits]
  constructor
  · intro whole part start filled proper
    exact whole part filled proper start
  · intro whole part filled proper start
    exact whole part start filled proper

instance (text : List Char) : Decidable (Unbordered text) := decidable_of_iff _ unbordered_iff.symm

/-- A copy behind a text without any is the leftmost one: another would begin in the text and end
in the copy, with one of its ends. -/
theorem Unbordered.cut?_eq (whole : Unbordered new) (absent : ¬ new <:+: before)
    (rest : List Char) : cut? new (before ++ new ++ rest) = some (before, rest) := by
  refine cut?_eq_some_iff.2 ⟨rfl, ?_⟩
  intro tail filled inside begins
  rcases List.prefix_or_prefix_of_prefix begins (List.prefix_append tail new) with
    short | ⟨part, joined⟩
  · exact absent (short.isInfix.trans inside.isInfix)
  · have start : part <+: new := (List.prefix_append_right_inj tail).1 (by rwa [joined])
    have ending : part <:+ new := ⟨tail, joined⟩
    have nonempty : part ≠ [] := by
      rintro rfl
      rw [List.append_nil] at joined
      exact absent (joined ▸ inside.isInfix)
    have proper : part ≠ new := by
      intro same
      have longer := congrArg List.length joined
      have positive := List.length_pos_iff.2 filled
      rw [List.length_append, same] at longer
      omega
    exact whole part nonempty proper start ending

/-- Where a target has been replaced, the copy is found before anything that follows it. -/
theorem Unbordered.cut?_copy (whole : Unbordered new) (absent : ¬ new <:+: text)
    (found : cut? target text = some (before, rest)) (behind : List Char) :
    cut? new (before ++ new ++ behind) = some (before, behind) :=
  whole.cut?_eq (fun inside => absent (inside.trans (infix_of_cut?_eq_some found).1)) behind

theorem replaceFirst_replaceFirst (whole : Unbordered new) (absent : ¬ new <:+: text)
    (count : Nat) :
    replaceFirst new target count (replaceFirst target new count text) = text := by
  induction count generalizing text with
  | zero => rfl
  | succ count ih =>
      cases found : cut? target text with
      | none =>
          rw [replaceFirst_of_cut?_eq_none found,
            replaceFirst_of_cut?_eq_none (cut?_eq_none_iff.2 absent)]
      | some parts =>
          obtain ⟨before, rest⟩ := parts
          have copy := whole.cut?_copy absent found (replaceFirst target new count rest)
          have later := ih fun inside => absent (inside.trans (infix_of_cut?_eq_some found).2)
          rw [replaceFirst_of_cut?_eq_some found, replaceFirst_of_cut?_eq_some copy, later,
            ← eq_append_of_cut? found]

theorem occurrences_replaceFirst_new (whole : Unbordered new) (written : new ≠ [])
    (filled : target ≠ []) (absent : ¬ new <:+: text) (enough : count ≤ occurrences target text) :
    occurrences new (replaceFirst target new count text) = count := by
  induction count generalizing text with
  | zero => exact (occurrences_eq_zero_iff written).2 absent
  | succ count ih =>
      cases found : cut? target text with
      | none =>
          rw [occurrences_of_cut?_eq_none found] at enough
          omega
      | some parts =>
          obtain ⟨before, rest⟩ := parts
          have copy := whole.cut?_copy absent found (replaceFirst target new count rest)
          have clean : ¬ new <:+: rest :=
            fun inside => absent (inside.trans (infix_of_cut?_eq_some found).2)
          rw [occurrences_of_cut?_eq_some filled found] at enough
          have later := ih clean (by omega)
          rw [replaceFirst_of_cut?_eq_some found, occurrences_of_cut?_eq_some written copy, later]

end Text

namespace Rule

/-- A literal rewrite is undone by the rule that goes the other way, if the new text does not
overlap itself and the buffer did not have it. Both rules come to the same outcome, and find nothing
only if there was nothing to rewrite. -/
theorem literal_undone {old new buffer : String} (filled : old ≠ "") (written : new ≠ "")
    (whole : Unbordered new.toList) (absent : ¬ new.toList <:+: buffer.toList)
    (mode : ReplaceMode) :
    ∃ between outcome, (literal old new mode).apply buffer = .ok ⟨between, outcome⟩ ∧
      (literal new old mode).apply between = .ok ⟨buffer, outcome⟩ ∧
      (outcome = .noMatch ↔ ¬ old.toList <:+: buffer.toList) := by
  have oldFilled : old.toList ≠ [] := by simpa using filled
  have newFilled : new.toList ≠ [] := by simpa using written
  have there : (literal old new mode).apply buffer = .ok (replaceText mode old new buffer) :=
    Rewrites.literal.apply_eq oldFilled buffer
  rw [replaceText_eq oldFilled] at there
  have copies := occurrences_replaceFirst_new whole newFilled oldFilled absent
    (mode.quota_le (occurrences old.toList buffer.toList))
  refine ⟨_, _, there, ?_, ?_⟩
  · rw [Rewrites.literal.apply_eq newFilled, replaceText_eq newFilled]
    simp only [String.toList_ofList, copies, ReplaceMode.quota_quota,
      replaceFirst_replaceFirst whole absent, String.ofList_toList]
  · rw [Outcome.ofCount_eq_noMatch_iff, ReplaceMode.quota_eq_zero_iff,
      occurrences_eq_zero_iff oldFilled]

/-- Copies stand next to each other and next to a start of another. -/
theorem literal_undone_adjacent :
    "b" ≠ "" ∧ "ab" ≠ "" ∧ Unbordered "ab".toList ∧ ¬ "ab".toList <:+: "bbaa".toList ∧
      (literal "b" "ab" .all).apply "bbaa" = .ok ⟨"ababaa", .applied 2⟩ ∧
      (literal "ab" "b" .all).apply "ababaa" = .ok ⟨"bbaa", .applied 2⟩ := by
  have filled : "b" ≠ "" := by decide
  have written : "ab" ≠ "" := by decide
  have whole : Unbordered "ab".toList := by decide
  have absent : ¬ "ab".toList <:+: "bbaa".toList := by decide
  have exact : (literal "b" "ab" .all).apply "bbaa" = .ok ⟨"ababaa", .applied 2⟩ :=
    eq_ok_of_toOption (by decide +kernel)
  obtain ⟨between, outcome, there, back, _⟩ := literal_undone filled written whole absent .all
  rw [exact] at there
  cases there
  exact ⟨filled, written, whole, absent, exact, back⟩

end Rule

end Emend
