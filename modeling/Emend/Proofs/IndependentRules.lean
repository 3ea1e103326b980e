import Emend.Proofs.Replacements

/-! # Independent rules

Two exact rules whose texts cannot overlap do not see each other. Neither finds more or less
because the other has run before it, so they can change places.
-/

namespace Emend

open Text

namespace Rule.Rewrites

variable {rule : Rule} {mode : ReplaceMode} {old new : String}
  (rewrites : Rewrites old new mode rule)
include rewrites

/-- Behind replacements of another target a rule replaces as many occurrences as without them. -/
theorem apply_behind {target written : List Char} (olds : Apart old.toList target)
    (news : Apart old.toList written) (n : Nat) (text : List Char) :
    rule.apply (String.ofList (replaceFirst target written n text)) =
      .ok ⟨String.ofList (replaceFirst old.toList new.toList
          (mode.quota (occurrences old.toList text)) (replaceFirst target written n text)),
        .ofCount (mode.quota (occurrences old.toList text))⟩ := by
  rw [rewrites.apply_eq olds.ne_nil, replaceText_eq olds.ne_nil]
  simp only [String.toList_ofList, occurrences_replaceFirst olds news]

end Rule.Rewrites

namespace Run

theorem apply_pair (hints : Bool) {buffer : String} {one two : NamedRule} {a b : Application}
    (first : one.rule.apply buffer = .ok a) (second : two.rule.apply a.buffer = .ok b) :
    apply hints buffer [one, two] =
      .ok ⟨b.buffer, [recordOf hints 0 buffer one a, recordOf hints 1 a.buffer two b]⟩ := by
  rw [apply, applyFrom_cons_of_ok first, applyFrom_cons_of_ok second]
  rfl

/-- Two rules that replace exact texts commute if their targets cannot overlap, and neither target
can overlap what the other rule writes. In both orders they come to the same buffer, and each
rule has the same outcome. Texts that cannot overlap are not empty. -/
theorem apply_pair_comm {mode₁ mode₂ : ReplaceMode} {old₁ new₁ old₂ new₂ : String}
    {one two : NamedRule} (hints : Bool) (buffer : String)
    (rewrites₁ : Rule.Rewrites old₁ new₁ mode₁ one.rule)
    (rewrites₂ : Rule.Rewrites old₂ new₂ mode₂ two.rule)
    (olds : Apart old₁.toList old₂.toList) (news₁ : Apart new₁.toList old₂.toList)
    (news₂ : Apart new₂.toList old₁.toList) :
    ∃ there back outcome₁ outcome₂,
      apply hints buffer [one, two] = .ok there ∧ apply hints buffer [two, one] = .ok back ∧
      there.buffer = back.buffer ∧
      (there.records.map fun record => (record.id, record.outcome)) =
        [(one.id, outcome₁), (two.id, outcome₂)] ∧
      (back.records.map fun record => (record.id, record.outcome)) =
        [(two.id, outcome₂), (one.id, outcome₁)] := by
  have firstAlone := (rewrites₁.apply_eq olds.ne_nil buffer).trans
    (congrArg _ (Rule.replaceText_eq olds.ne_nil new₁ buffer))
  have secondAlone := (rewrites₂.apply_eq olds.symm.ne_nil buffer).trans
    (congrArg _ (Rule.replaceText_eq olds.symm.ne_nil new₂ buffer))
  have there := apply_pair hints firstAlone
    (rewrites₂.apply_behind olds.symm news₁.symm _ buffer.toList)
  have back := apply_pair hints secondAlone
    (rewrites₁.apply_behind olds news₂.symm _ buffer.toList)
  refine ⟨_, _, _, _, there, back, ?_, rfl, rfl⟩
  exact congrArg String.ofList (replaceFirst_comm olds.symm news₂.symm news₁.symm _ _ buffer.toList)

/-- The first target overlaps itself, and both come more than once. -/
theorem apply_pair_comm_literal_block :
    Apart "aba".toList "cc".toList ∧ Apart "x".toList "cc".toList ∧
      Apart "yz".toList "aba".toList ∧
    ∃ there back outcome₁ outcome₂,
      apply true "ababaccccaba" [⟨"1", .literal "aba" "x" .all⟩, ⟨"2", .block "cc" "yz"⟩] =
        .ok there ∧
      apply true "ababaccccaba" [⟨"2", .block "cc" "yz"⟩, ⟨"1", .literal "aba" "x" .all⟩] =
        .ok back ∧
      there.buffer = back.buffer ∧
      (there.records.map fun record => (record.id, record.outcome)) =
        [("1", outcome₁), ("2", outcome₂)] ∧
      (back.records.map fun record => (record.id, record.outcome)) =
        [("2", outcome₂), ("1", outcome₁)] := by
  have olds : Apart "aba".toList "cc".toList := by decide
  have news₁ : Apart "x".toList "cc".toList := by decide
  have news₂ : Apart "yz".toList "aba".toList := by decide
  exact ⟨olds, news₁, news₂,
    apply_pair_comm true "ababaccccaba" .literal .block olds news₁ news₂⟩

end Run

end Emend
