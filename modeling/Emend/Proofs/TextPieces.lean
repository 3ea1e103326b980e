import Emend.Proofs.Occurrences

/-! # The pieces of a text

A text without the target has one piece; any other text has the piece before the leftmost
occurrence and then the pieces of what follows it.
-/

namespace Emend.Text

variable {target text before rest block : List Char}

theorem pieces_of_cut?_eq_none (absent : cut? target text = none) :
    pieces target text = [text] := by
  rw [pieces]
  split
  · rfl
  · split
    · rfl
    · next found => cases absent.symm.trans found

theorem pieces_of_cut?_eq_some (filled : target ≠ [])
    (found : cut? target text = some (before, rest)) :
    pieces target text = before :: pieces target rest := by
  rw [pieces, dif_neg filled]
  split
  · next absent => cases absent.symm.trans found
  · next same =>
      cases found.symm.trans same
      rfl

theorem pieces_cons_of_not_start {c : Char} (absent : ¬ target <+: c :: text) :
    ∃ first more, pieces target text = first :: more ∧
      pieces target (c :: text) = (c :: first) :: more := by
  have filled : target ≠ [] := by
    rintro rfl
    exact absent List.nil_prefix
  have shifted := cut?_cons_of_not_start absent
  cases found : cut? target text with
  | none =>
      rw [found, Option.map_none] at shifted
      exact ⟨text, [], pieces_of_cut?_eq_none found, pieces_of_cut?_eq_none shifted⟩
  | some parts =>
      obtain ⟨before, rest⟩ := parts
      rw [found, Option.map_some] at shifted
      exact ⟨before, pieces target rest, pieces_of_cut?_eq_some filled found,
        pieces_of_cut?_eq_some filled shifted⟩

/-- What follows an occurrence is shorter than the text, so that an argument about the pieces
of a text can use the same of what follows its first occurrence. -/
theorem length_lt_of_cut?_eq_some (filled : target ≠ [])
    (found : cut? target text = some (before, rest)) : rest.length < text.length := by
  have positive := List.length_pos_iff.2 filled
  rw [eq_append_of_cut? found]
  simp only [List.length_append]
  omega

theorem cut?_singleton_append {c : Char} {tail : List Char} (clean : c ∉ tail)
    (text : List Char) :
    cut? [c] (text ++ tail) =
      (cut? [c] text).map fun (before, rest) => (before, rest ++ tail) := by
  cases found : cut? [c] text with
  | none =>
      have absent : c ∉ text := by
        rwa [cut?_eq_none_iff, List.singleton_infix_iff] at found
      rw [Option.map_none, cut?_eq_none_iff, List.singleton_infix_iff]
      simp [absent, clean]
  | some parts => exact cut?_append_of_eq_some found tail

theorem pieces_singleton_append {c : Char} {tail : List Char} (clean : c ∉ tail)
    (text : List Char) :
    ∃ front last, pieces [c] text = front ++ [last] ∧
      pieces [c] (text ++ tail) = front ++ [last ++ tail] := by
  have filled : [c] ≠ [] := List.cons_ne_nil _ _
  cases found : cut? [c] text with
  | none =>
      have absent : cut? [c] (text ++ tail) = none := by
        rw [cut?_singleton_append clean, found, Option.map_none]
      exact ⟨[], text, pieces_of_cut?_eq_none found, pieces_of_cut?_eq_none absent⟩
  | some parts =>
      obtain ⟨before, rest⟩ := parts
      have foundBehind : cut? [c] (text ++ tail) = some (before, rest ++ tail) := by
        rw [cut?_singleton_append clean, found, Option.map_some]
      have shorter := length_lt_of_cut?_eq_some filled found
      obtain ⟨front, last, here, behind⟩ := pieces_singleton_append clean rest
      refine ⟨before :: front, last, ?_, ?_⟩
      · rw [pieces_of_cut?_eq_some filled found, here, List.cons_append]
      · rw [pieces_of_cut?_eq_some filled foundBehind, behind, List.cons_append]
termination_by text.length

/-! ## Numbers of occurrences -/

@[simp]
theorem pieces_ne_nil (target text : List Char) : pieces target text ≠ [] := by
  rw [pieces]
  split
  · exact List.cons_ne_nil _ _
  · split <;> exact List.cons_ne_nil _ _

theorem occurrences_of_cut?_eq_none (absent : cut? target text = none) :
    occurrences target text = 0 := by
  simp [occurrences, pieces_of_cut?_eq_none absent]

theorem occurrences_of_cut?_eq_some (filled : target ≠ [])
    (found : cut? target text = some (before, rest)) :
    occurrences target text = occurrences target rest + 1 := by
  have positive := List.length_pos_iff.2 (pieces_ne_nil target rest)
  simp only [occurrences, pieces_of_cut?_eq_some filled found, List.length_cons]
  omega

theorem occurrences_eq_zero_iff (filled : target ≠ []) :
    occurrences target text = 0 ↔ ¬ target <:+: text := by
  rw [← cut?_eq_none_iff]
  constructor
  · intro none
    cases found : cut? target text with
    | none => rfl
    | some parts =>
        rw [occurrences_of_cut?_eq_some filled found] at none
        cases none
  · exact occurrences_of_cut?_eq_none

theorem occurrences_append_of_apart (apart : Apart target block) (front rest : List Char) :
    occurrences target (front ++ block ++ rest) =
      occurrences target front + occurrences target rest := by
  cases found : cut? target front with
  | none =>
      rw [occurrences_of_cut?_eq_none found, Nat.zero_add]
      cases behind : cut? target rest with
      | none =>
          rw [occurrences_of_cut?_eq_none behind]
          apply occurrences_of_cut?_eq_none
          rw [cut?_append_of_apart apart found, behind, Option.map_none]
      | some parts =>
          obtain ⟨between, later⟩ := parts
          have foundAll : cut? target (front ++ block ++ rest) =
              some (front ++ block ++ between, later) := by
            rw [cut?_append_of_apart apart found, behind, Option.map_some]
          rw [occurrences_of_cut?_eq_some apart.ne_nil behind,
            occurrences_of_cut?_eq_some apart.ne_nil foundAll]
  | some parts =>
      obtain ⟨first, behind⟩ := parts
      have shorter := length_lt_of_cut?_eq_some apart.ne_nil found
      have foundAll : cut? target (front ++ block ++ rest) =
          some (first, behind ++ block ++ rest) := by
        have longer := cut?_append_of_eq_some found (block ++ rest)
        rwa [← List.append_assoc, ← List.append_assoc] at longer
      rw [occurrences_of_cut?_eq_some apart.ne_nil found,
        occurrences_of_cut?_eq_some apart.ne_nil foundAll,
        occurrences_append_of_apart apart behind rest]
      omega
termination_by front.length

end Emend.Text
