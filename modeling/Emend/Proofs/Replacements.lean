import Emend.Proofs.RunSteps
import Emend.Proofs.TextPieces

/-! # Replacing the first occurrences

Both modes of an exact rule replace occurrences from the left: the one replaces one, the other all
of them. So they are one function of the number of occurrences to replace, which is what is
reasoned about.
-/

namespace Emend

namespace Text

variable {target new other text before rest front block : List Char} {count : Nat}

/-- Writes `new` in place of the first occurrences of `target`, up to `count` of them. -/
def replaceFirst (target new : List Char) : (count : Nat) → (text : List Char) → List Char
  | 0, text => text
  | count + 1, text =>
      match cut? target text with
      | none => text
      | some (before, rest) => before ++ new ++ replaceFirst target new count rest

theorem replaceFirst_of_cut?_eq_none (absent : cut? target text = none) :
    replaceFirst target new count text = text := by
  cases count with
  | zero => rfl
  | succ count => simp only [replaceFirst, absent]

theorem replaceFirst_of_cut?_eq_some (found : cut? target text = some (before, rest)) :
    replaceFirst target new (count + 1) text =
      before ++ new ++ replaceFirst target new count rest := by
  simp only [replaceFirst, found]

theorem replaceAll_eq_replaceFirst (filled : target ≠ []) (new text : List Char) :
    replaceAll target new text = replaceFirst target new (occurrences target text) text := by
  cases found : cut? target text with
  | none => simp [replaceAll, pieces_of_cut?_eq_none found, replaceFirst_of_cut?_eq_none found]
  | some parts =>
      obtain ⟨before, rest⟩ := parts
      have shorter := length_lt_of_cut?_eq_some filled found
      have later := replaceAll_eq_replaceFirst filled new rest
      rw [replaceAll] at later
      rw [occurrences_of_cut?_eq_some filled found, replaceFirst_of_cut?_eq_some found, ← later,
        replaceAll, pieces_of_cut?_eq_some filled found,
        List.intercalate_cons_of_ne_nil (pieces_ne_nil target rest)]
termination_by text.length

theorem replaceFirst_append_of_apart (apart : Apart target block)
    (absent : cut? target front = none) (new : List Char) (count : Nat) (rest : List Char) :
    replaceFirst target new count (front ++ block ++ rest) =
      front ++ block ++ replaceFirst target new count rest := by
  cases count with
  | zero => rfl
  | succ count =>
      have split := cut?_append_of_apart apart absent rest
      cases behind : cut? target rest with
      | none =>
          rw [behind, Option.map_none] at split
          rw [replaceFirst_of_cut?_eq_none split, replaceFirst_of_cut?_eq_none behind]
      | some parts =>
          rw [behind, Option.map_some] at split
          rw [replaceFirst_of_cut?_eq_some split, replaceFirst_of_cut?_eq_some behind]
          simp only [List.append_assoc]

/-- Replacing a target leaves the occurrences of another text alone that can overlap neither the
target nor what is written in its place. -/
theorem occurrences_replaceFirst (olds : Apart other target) (news : Apart other new)
    (count : Nat) (text : List Char) :
    occurrences other (replaceFirst target new count text) = occurrences other text := by
  induction count generalizing text with
  | zero => rfl
  | succ count ih =>
      cases found : cut? target text with
      | none => rw [replaceFirst_of_cut?_eq_none found]
      | some parts =>
          obtain ⟨before, rest⟩ := parts
          rw [replaceFirst_of_cut?_eq_some found, occurrences_append_of_apart news, ih,
            eq_append_of_cut? found, occurrences_append_of_apart olds]

/-- Where every occurrence has been replaced by a text that cannot overlap the target, the target
is gone. -/
theorem occurrences_replaceFirst_self (apart : Apart target new) (text : List Char) :
    occurrences target (replaceFirst target new (occurrences target text) text) = 0 := by
  cases found : cut? target text with
  | none =>
      rw [replaceFirst_of_cut?_eq_none found]
      exact occurrences_of_cut?_eq_none found
  | some parts =>
      obtain ⟨before, rest⟩ := parts
      have shorter := length_lt_of_cut?_eq_some apart.ne_nil found
      have clean := (occurrences_eq_zero_iff apart.ne_nil).2 (not_infix_before apart.ne_nil found)
      rw [occurrences_of_cut?_eq_some apart.ne_nil found, replaceFirst_of_cut?_eq_some found,
        occurrences_append_of_apart apart, clean, occurrences_replaceFirst_self apart rest]
termination_by text.length

/-! ## Replacing two targets -/

section Two

variable {one new₁ two new₂ : List Char}

theorem exists_first (filled : one ≠ []) (two text : List Char) :
    (cut? one text = none ∧ cut? two text = none) ∨
    (∃ before rest, cut? one text = some (before, rest) ∧ cut? two before = none) ∨
    ∃ before rest, cut? two text = some (before, rest) ∧ cut? one before = none := by
  cases foundOne : cut? one text with
  | none =>
      cases foundTwo : cut? two text with
      | none => exact .inl ⟨rfl, rfl⟩
      | some parts =>
          obtain ⟨before, rest⟩ := parts
          refine .inr (.inr ⟨before, rest, rfl, cut?_eq_none_iff.2 fun inside => ?_⟩)
          have whole := (infix_of_cut?_eq_some foundTwo).1
          exact cut?_eq_none_iff.1 foundOne (inside.trans whole)
  | some parts =>
      obtain ⟨before, rest⟩ := parts
      cases foundTwo : cut? two before with
      | none => exact .inr (.inl ⟨before, rest, rfl, foundTwo⟩)
      | some parts =>
          obtain ⟨earlier, between⟩ := parts
          refine .inr (.inr ⟨earlier, between ++ one ++ rest, ?_, ?_⟩)
          · have found := cut?_append_of_eq_some foundTwo (one ++ rest)
            rwa [← List.append_assoc, ← List.append_assoc, ← eq_append_of_cut? foundOne] at found
          · refine cut?_eq_none_iff.2 fun inside => ?_
            have whole := (infix_of_cut?_eq_some foundTwo).1
            exact not_infix_before filled foundOne (inside.trans whole)

theorem replaceFirst_comm_step {m n : Nat} (found : cut? one text = some (before, rest))
    (absent : cut? two before = none) (olds : Apart two one) (news : Apart two new₁)
    (later : replaceFirst one new₁ m (replaceFirst two new₂ n rest) =
      replaceFirst two new₂ n (replaceFirst one new₁ m rest)) :
    replaceFirst one new₁ (m + 1) (replaceFirst two new₂ n text) =
      replaceFirst two new₂ n (replaceFirst one new₁ (m + 1) text) := by
  have stays : replaceFirst two new₂ n text =
      before ++ one ++ replaceFirst two new₂ n rest := by
    rw [eq_append_of_cut? found, replaceFirst_append_of_apart olds absent]
  have foundBehind := cut?_of_other_rest found (replaceFirst two new₂ n rest)
  calc replaceFirst one new₁ (m + 1) (replaceFirst two new₂ n text)
      = before ++ new₁ ++ replaceFirst one new₁ m (replaceFirst two new₂ n rest) := by
        rw [stays, replaceFirst_of_cut?_eq_some foundBehind]
    _ = before ++ new₁ ++ replaceFirst two new₂ n (replaceFirst one new₁ m rest) := by rw [later]
    _ = replaceFirst two new₂ n (before ++ new₁ ++ replaceFirst one new₁ m rest) := by
        rw [replaceFirst_append_of_apart news absent]
    _ = replaceFirst two new₂ n (replaceFirst one new₁ (m + 1) text) := by
        rw [replaceFirst_of_cut?_eq_some found]

theorem replaceFirst_comm (olds : Apart one two) (news₁ : Apart two new₁) (news₂ : Apart one new₂)
    (m n : Nat) (text : List Char) :
    replaceFirst one new₁ m (replaceFirst two new₂ n text) =
      replaceFirst two new₂ n (replaceFirst one new₁ m text) := by
  match m, n with
  | 0, _ => rfl
  | _ + 1, 0 => rfl
  | m + 1, n + 1 =>
      rcases exists_first olds.ne_nil two text with
        ⟨noOne, noTwo⟩ | ⟨before, rest, found, absent⟩ | ⟨before, rest, found, absent⟩
      · rw [replaceFirst_of_cut?_eq_none noTwo, replaceFirst_of_cut?_eq_none noOne,
          replaceFirst_of_cut?_eq_none noTwo]
      · exact replaceFirst_comm_step found absent olds.symm news₁
          (replaceFirst_comm olds news₁ news₂ m (n + 1) rest)
      · exact (replaceFirst_comm_step found absent olds news₂
          (replaceFirst_comm olds news₁ news₂ (m + 1) n rest).symm).symm
termination_by m + n

end Two

end Text

/-- How many of the occurrences a mode replaces. -/
def ReplaceMode.quota : ReplaceMode → (occurrences : Nat) → Nat
  | .first, n => min 1 n
  | .all, n => n

theorem ReplaceMode.quota_le (mode : ReplaceMode) (n : Nat) : mode.quota n ≤ n := by
  cases mode
  · exact Nat.min_le_right 1 n
  · exact Nat.le_refl n

theorem ReplaceMode.quota_quota (mode : ReplaceMode) (n : Nat) :
    mode.quota (mode.quota n) = mode.quota n := by
  cases mode
  · exact Nat.min_eq_right (Nat.min_le_left 1 n)
  · rfl

theorem ReplaceMode.quota_eq_zero_iff {mode : ReplaceMode} {n : Nat} :
    mode.quota n = 0 ↔ n = 0 := by
  cases mode with
  | first =>
      simp only [quota]
      omega
  | all => rfl

/-- The outcome of a number of replacements. -/
def Outcome.ofCount : Nat → Outcome
  | 0 => .noMatch
  | n + 1 => .applied (n + 1)

theorem Outcome.ofCount_eq_noMatch_iff {n : Nat} : ofCount n = .noMatch ↔ n = 0 := by
  cases n <;> simp [ofCount]

theorem Outcome.eq_of_ofCount_eq_applied {m n : Nat} (same : ofCount m = .applied n) : m = n := by
  cases m with
  | zero => cases same
  | succ m => simpa [ofCount] using same

namespace Rule

/-- Exact rules replace occurrences from the left, as many as their mode says, and count them. -/
theorem replaceText_eq {mode : ReplaceMode} {old : String} (filled : old.toList ≠ [])
    (new buffer : String) :
    replaceText mode old new buffer =
      let count := mode.quota (Text.occurrences old.toList buffer.toList)
      ⟨String.ofList (Text.replaceFirst old.toList new.toList count buffer.toList),
        .ofCount count⟩ := by
  cases found : Text.cut? old.toList buffer.toList with
  | none =>
      cases mode <;>
        simp [replaceText, found, Text.occurrences_of_cut?_eq_none found, ReplaceMode.quota,
          Text.replaceFirst, Outcome.ofCount, Application.unchanged]
  | some parts =>
      obtain ⟨before, rest⟩ := parts
      have counted := Text.occurrences_of_cut?_eq_some filled found
      cases mode with
      | first =>
          simp [replaceText, found, counted, ReplaceMode.quota, Outcome.ofCount,
            Text.replaceFirst]
      | all =>
          simp [replaceText, found, ReplaceMode.quota, Text.replaceAll_eq_replaceFirst filled,
            counted, Outcome.ofCount]

end Rule

/-- A rule that replaces an exact text, as a literal or as a block. -/
inductive Rule.Rewrites (old new : String) : ReplaceMode → Rule → Prop
  | literal {mode : ReplaceMode} : Rewrites old new mode (.literal old new mode)
  | block : Rewrites old new .first (.block old new)

namespace Rule

variable {rule : Rule} {mode : ReplaceMode} {old new buffer : String} {before rest : List Char}

theorem replaceText_of_absent (absent : ¬ old.toList <:+: buffer.toList) :
    replaceText mode old new buffer = .unchanged buffer := by
  rw [replaceText, Text.cut?_eq_none_iff.2 absent]

theorem Rewrites.apply_eq (rewrites : Rewrites old new mode rule) (filled : old.toList ≠ [])
    (buffer : String) : rule.apply buffer = .ok (replaceText mode old new buffer) := by
  have nonempty : old ≠ "" := by
    rintro rfl
    exact filled rfl
  cases rewrites <;> simp only [apply, nonempty, if_false]

theorem Rewrites.apply_of_absent (rewrites : Rewrites old new mode rule) (filled : old.toList ≠ [])
    (absent : ¬ old.toList <:+: buffer.toList) : rule.apply buffer = .ok ⟨buffer, .noMatch⟩ := by
  rw [rewrites.apply_eq filled, replaceText_of_absent absent]
  rfl

theorem Rewrites.apply_first (rewrites : Rewrites old new .first rule) (filled : old.toList ≠ [])
    (found : Text.cut? old.toList buffer.toList = some (before, rest)) :
    rule.apply buffer = .ok ⟨String.ofList (before ++ new.toList ++ rest), .applied 1⟩ := by
  rw [rewrites.apply_eq filled]
  simp only [replaceText, found]

end Rule

end Emend
