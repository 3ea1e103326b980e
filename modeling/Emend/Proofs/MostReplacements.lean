import Emend.Proofs.ExactRules
import Mathlib.Data.Finset.Card
import Mathlib.Data.Finset.Image
import Mathlib.Order.Bounds.Defs

/-! # The largest number of replacements

Where a target overlaps itself, not all of its occurrences can be replaced. Of all choices the
search from the left makes one of the largest: no more than one occurrence of another choice begins
before the end of the leftmost one, and what is left of that choice lies in the rest of the text.
-/

namespace Emend

namespace Text

variable {target text before rest : List Char} {starts : Finset Nat}

/-- Places of a text at which a target stands, none of its copies overlapping another. -/
structure Separate (target text : List Char) (starts : Finset Nat) : Prop where
  occurs : ∀ start ∈ starts, target <+: text.drop start
  apart : ∀ one ∈ starts, ∀ two ∈ starts, one < two → one + target.length ≤ two

theorem Leftmost.length_le (leftmost : Leftmost target text before rest) {start : Nat}
    (occurs : target <+: text.drop start) : before.length ≤ start := by
  obtain ⟨back, here⟩ := occurs
  have split : text = text.take start ++ target ++ back := by
    rw [List.append_assoc, here, List.take_append_drop]
  have bound := leftmost.first _ _ split
  rw [List.length_take] at bound
  omega

theorem Leftmost.drop_eq (leftmost : Leftmost target text before rest) (shift : Nat) :
    text.drop (before.length + target.length + shift) = rest.drop shift := by
  rw [leftmost.split, ← List.length_append, List.drop_append]
  simp

theorem Separate.card_early (separate : Separate target text starts)
    (leftmost : Leftmost target text before rest) :
    (starts.filter (· < before.length + target.length)).card ≤ 1 := by
  rw [Finset.card_le_one]
  intro one early two late
  rw [Finset.mem_filter] at early late
  have lowOne := leftmost.length_le (separate.occurs one early.1)
  have lowTwo := leftmost.length_le (separate.occurs two late.1)
  rcases Nat.lt_trichotomy one two with less | same | more
  · have := separate.apart one early.1 two late.1 less
    omega
  · exact same
  · have := separate.apart two late.1 one early.1 more
    omega

theorem Separate.behind (separate : Separate target text starts)
    (leftmost : Leftmost target text before rest) :
    Separate target rest ((starts.filter (¬ · < before.length + target.length)).image
      (· - (before.length + target.length))) where
  occurs := by
    intro shift member
    obtain ⟨start, chosen, rfl⟩ := Finset.mem_image.1 member
    obtain ⟨inside, late⟩ := Finset.mem_filter.1 chosen
    have here := separate.occurs start inside
    rwa [← leftmost.drop_eq, Nat.add_sub_of_le (by omega)]
  apart := by
    intro one first two second less
    obtain ⟨i, chosen, rfl⟩ := Finset.mem_image.1 first
    obtain ⟨j, other, rfl⟩ := Finset.mem_image.1 second
    rw [Finset.mem_filter] at chosen other
    have := separate.apart i chosen.1 j other.1 (by omega)
    omega

theorem Separate.card_le {text : List Char} {starts : Finset Nat}
    (separate : Separate target text starts) (filled : target ≠ []) :
    starts.card ≤ occurrences target text := by
  cases found : cut? target text with
  | none =>
      have empty : starts = ∅ := by
        rw [Finset.eq_empty_iff_forall_notMem]
        intro start member
        have here := (separate.occurs start member).isInfix
        exact cut?_eq_none_iff.1 found (here.trans (List.drop_suffix _ _).isInfix)
      rw [empty, Finset.card_empty]
      exact Nat.zero_le _
  | some parts =>
      obtain ⟨before, rest⟩ := parts
      have leftmost := Leftmost.of_cut?_eq_some found
      have shorter := length_lt_of_cut?_eq_some filled found
      have early := separate.card_early leftmost
      have late := (separate.behind leftmost).card_le filled
      rw [Finset.card_image_of_injOn] at late
      · have whole := starts.card_filter_add_card_filter_not (· < before.length + target.length)
        rw [occurrences_of_cut?_eq_some filled found]
        omega
      · intro i chosen j other same
        simp only [Finset.mem_coe, Finset.mem_filter] at chosen other same
        omega
termination_by text.length

theorem Leftmost.separate (leftmost : Leftmost target text before rest)
    (later : Separate target rest starts) :
    Separate target text (insert before.length
      (starts.image (before.length + target.length + ·))) where
  occurs := by
    intro start member
    rcases Finset.mem_insert.1 member with rfl | member
    · rw [leftmost.split, List.append_assoc, List.drop_left]
      exact List.prefix_append _ _
    · obtain ⟨shift, chosen, rfl⟩ := Finset.mem_image.1 member
      rw [leftmost.drop_eq]
      exact later.occurs shift chosen
  apart := by
    intro one first two second less
    rw [Finset.mem_insert, Finset.mem_image] at first second
    rcases first with rfl | ⟨i, chosen, rfl⟩ <;> rcases second with rfl | ⟨j, other, rfl⟩
    · omega
    · omega
    · omega
    · have := later.apart i chosen j other (by omega)
      omega

theorem exists_separate (filled : target ≠ []) (text : List Char) :
    ∃ starts, Separate target text starts ∧ starts.card = occurrences target text := by
  cases found : cut? target text with
  | none =>
      refine ⟨∅, ⟨by simp, by simp⟩, ?_⟩
      rw [occurrences_of_cut?_eq_none found, Finset.card_empty]
  | some parts =>
      obtain ⟨before, rest⟩ := parts
      have shorter := length_lt_of_cut?_eq_some filled found
      obtain ⟨starts, separate, counted⟩ := exists_separate filled rest
      refine ⟨_, (Leftmost.of_cut?_eq_some found).separate separate, ?_⟩
      rw [Finset.card_insert_of_notMem, Finset.card_image_of_injective, counted,
        occurrences_of_cut?_eq_some filled found]
      · exact fun _ _ same => Nat.add_left_cancel same
      · rw [Finset.mem_image]
        rintro ⟨shift, _, same⟩
        have positive := List.length_pos_iff.2 filled
        omega
termination_by text.length

end Text

open Text

namespace Rule

/-- A rule for all occurrences makes as many replacements as any choice of occurrences that do not
overlap could make. -/
theorem replacements_isGreatest {old : String} (nonempty : old ≠ "") (new buffer : String) :
    ∃ after count, (literal old new .all).apply buffer = .ok ⟨after, .ofCount count⟩ ∧
      IsGreatest {n | ∃ starts, Separate old.toList buffer.toList starts ∧ starts.card = n}
        count := by
  have filled : old.toList ≠ [] := by simpa using nonempty
  have applied : (literal old new .all).apply buffer = .ok (replaceText .all old new buffer) :=
    Rewrites.literal.apply_eq filled buffer
  rw [replaceText_eq filled] at applied
  refine ⟨_, _, applied, exists_separate filled _, ?_⟩
  rintro n ⟨starts, separate, rfl⟩
  exact separate.card_le filled

/-- Four occurrences overlap here, and two of them can be replaced. -/
theorem replacements_isGreatest_of_overlaps :
    "aa" ≠ "" ∧ (literal "aa" "b" .all).apply "aaaaa" = .ok ⟨"bba", .applied 2⟩ ∧
      IsGreatest {n | ∃ starts, Separate "aa".toList "aaaaa".toList starts ∧ starts.card = n}
        2 := by
  have nonempty : "aa" ≠ "" := by decide
  have exact : (literal "aa" "b" .all).apply "aaaaa" = .ok ⟨"bba", .applied 2⟩ :=
    eq_ok_of_toOption (by decide +kernel)
  obtain ⟨after, count, applied, greatest⟩ := replacements_isGreatest nonempty "b" "aaaaa"
  rw [exact] at applied
  obtain ⟨rfl, counted⟩ := Application.mk.inj (Except.ok.inj applied)
  obtain rfl := Outcome.eq_of_ofCount_eq_applied counted.symm
  exact ⟨nonempty, exact, greatest⟩

end Rule

end Emend
