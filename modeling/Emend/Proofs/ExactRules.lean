import Emend.Proofs.Replacements

/-! # What exact rules write

A text splits in one way only into the gaps between the occurrences that a search from the left
comes to. An exact rule writes its new text between those gaps, between all of them or only behind
the first, and counts how often it did so.
-/

namespace Emend

namespace Text

variable {target text before rest : List Char} {gaps : List (List Char)}

/-- An occurrence of a target before which no other one starts, and what stands around it. -/
structure Leftmost (target text before rest : List Char) : Prop where
  split : text = before ++ target ++ rest
  first : ∀ front back, text = front ++ target ++ back → before.length ≤ front.length

/-- The gaps that are left when the leftmost occurrence is taken out of a text, then the leftmost
one of what follows it, and so on until there is none. -/
inductive Gaps (target : List Char) : (text : List Char) → (gaps : List (List Char)) → Prop where
  | last {text : List Char} : ¬ target <:+: text → Gaps target text [text]
  | cut {text before rest : List Char} {gaps : List (List Char)} :
      Leftmost target text before rest → Gaps target rest gaps → Gaps target text (before :: gaps)

theorem Leftmost.of_cut?_eq_some (found : cut? target text = some (before, rest)) :
    Leftmost target text before rest where
  split := eq_append_of_cut? found
  first := by
    intro front back other
    by_contra earlier
    obtain ⟨whole, clean⟩ := cut?_eq_some_iff.1 found
    -- An earlier occurrence would start in `before`, with `tail` of it still to come.
    have shorter : front.length ≤ before.length := by omega
    have frontFirst : front <+: text := ⟨target ++ back, by rw [other, List.append_assoc]⟩
    have beforeFirst : before <+: text := ⟨target ++ rest, by rw [whole, List.append_assoc]⟩
    obtain ⟨tail, rfl⟩ := List.prefix_of_prefix_length_le frontFirst beforeFirst shorter
    have filled : tail ≠ [] := by
      rintro rfl
      simp at earlier
    have same : tail ++ target ++ rest = target ++ back := by
      rw [whole] at other
      simpa using other
    refine clean tail filled (List.suffix_append _ _) ?_
    exact List.prefix_of_prefix_length_le ⟨back, same.symm⟩ (List.prefix_append _ rest) (by simp)

theorem Leftmost.cut?_eq (leftmost : Leftmost target text before rest) :
    cut? target text = some (before, rest) := by
  refine cut?_eq_some_iff.2 ⟨leftmost.split, ?_⟩
  rintro tail filled ⟨front, rfl⟩ ⟨more, begins⟩
  have other : text = front ++ target ++ (more ++ rest) := by
    rw [leftmost.split, List.append_assoc front tail, ← begins]
    simp
  have bound := leftmost.first _ _ other
  have positive := List.length_pos_iff.2 filled
  rw [List.length_append] at bound
  omega

theorem gaps_pieces (filled : target ≠ []) (text : List Char) :
    Gaps target text (pieces target text) := by
  cases found : cut? target text with
  | none =>
      rw [pieces_of_cut?_eq_none found]
      exact .last (cut?_eq_none_iff.1 found)
  | some parts =>
      obtain ⟨before, rest⟩ := parts
      have shorter := length_lt_of_cut?_eq_some filled found
      rw [pieces_of_cut?_eq_some filled found]
      exact .cut (Leftmost.of_cut?_eq_some found) (gaps_pieces filled rest)
termination_by text.length

theorem Gaps.eq_pieces (split : Gaps target text gaps) (filled : target ≠ []) :
    gaps = pieces target text := by
  induction split with
  | last absent => exact (pieces_of_cut?_eq_none (cut?_eq_none_iff.2 absent)).symm
  | cut leftmost _ ih => rw [pieces_of_cut?_eq_some filled leftmost.cut?_eq, ih]

theorem Gaps.ne_nil (split : Gaps target text gaps) : gaps ≠ [] := by
  cases split <;> exact List.cons_ne_nil _ _

theorem Gaps.intercalate_eq (split : Gaps target text gaps) : target.intercalate gaps = text := by
  induction split with
  | last _ => simp
  | cut leftmost later ih =>
      rw [List.intercalate_cons_of_ne_nil later.ne_nil, ih, leftmost.split]

end Text

namespace Rule

open Text

variable {old new buffer : String}

/-- What the exact rules do to a buffer with the target, which they split into `first`, what stands
before the leftmost occurrence, and the gaps `later` behind it. -/
structure Spliced (old new buffer : String) (first : List Char) (later : List (List Char)) :
    Prop where
  unique : ∀ gaps, Gaps old.toList buffer.toList gaps ↔ gaps = first :: later
  several : later ≠ []
  whole : buffer = String.ofList (old.toList.intercalate (first :: later))
  all : ∀ rule, Rewrites old new .all rule → rule.apply buffer =
    .ok ⟨String.ofList (new.toList.intercalate (first :: later)), .applied later.length⟩
  once : ∃ rest, Leftmost old.toList buffer.toList first rest ∧
    ∀ rule, Rewrites old new .first rule → rule.apply buffer =
      .ok ⟨String.ofList (first ++ new.toList ++ rest), .applied 1⟩

theorem spliced_of_cut?_eq_some {first rest : List Char} (filled : old.toList ≠ [])
    (found : cut? old.toList buffer.toList = some (first, rest)) (new : String) :
    Spliced old new buffer first (pieces old.toList rest) := by
  have split := pieces_of_cut?_eq_some filled found
  have gaps : Gaps old.toList buffer.toList (first :: pieces old.toList rest) :=
    split ▸ gaps_pieces filled buffer.toList
  have counted : occurrences old.toList buffer.toList = (pieces old.toList rest).length := by
    simp [occurrences, split]
  refine ⟨?unique, pieces_ne_nil _ _, ?whole, ?all, rest, Leftmost.of_cut?_eq_some found, ?once⟩
  case unique =>
    intro other
    constructor
    · intro others
      rw [others.eq_pieces filled, split]
    · rintro rfl
      exact gaps
  case whole => rw [gaps.intercalate_eq, String.ofList_toList]
  case all =>
    intro rule rewrites
    rw [rewrites.apply_eq filled]
    simp only [replaceText, found, replaceAll, split, counted]
  case once =>
    intro rule rewrites
    exact rewrites.apply_first filled found

/-- What exact rules do to any buffer, literals in both modes and blocks. Those without a target
cannot be applied; all others can, and without an occurrence they leave the buffer as it is. Where
there is one, what they write and what they count go by the same gaps. -/
theorem exact_rules_meaning (old new buffer : String) :
    (old = "" → ∀ mode rule, Rewrites old new mode rule →
      rule.apply buffer = .error (.emptyTarget rule.kind)) ∧
    (old ≠ "" → ¬ old.toList <:+: buffer.toList → ∀ mode rule, Rewrites old new mode rule →
      rule.apply buffer = .ok ⟨buffer, .noMatch⟩) ∧
    (old ≠ "" → old.toList <:+: buffer.toList → ∃ first later,
      Spliced old new buffer first later) := by
  refine ⟨?_, ?_, ?_⟩
  · rintro rfl mode rule rewrites
    cases rewrites <;> rfl
  · intro nonempty absent mode rule rewrites
    exact rewrites.apply_of_absent (by simpa using nonempty) absent
  · intro nonempty present
    have filled : old.toList ≠ [] := by simpa using nonempty
    cases found : cut? old.toList buffer.toList with
    | none => exact absurd present (cut?_eq_none_iff.1 found)
    | some parts => exact ⟨_, _, spliced_of_cut?_eq_some filled found new⟩

/-- The target overlaps itself, and the text begins with it. -/
theorem exact_rules_meaning_of_overlaps :
    "aa" ≠ "" ∧ "aa".toList <:+: "aaaaa".toList ∧ Spliced "aa" "b" "aaaaa" [] [[], ['a']] := by
  have nonempty : "aa" ≠ "" := by decide
  have present : "aa".toList <:+: "aaaaa".toList := by decide
  obtain ⟨first, later, spliced⟩ := (exact_rules_meaning "aa" "b" "aaaaa").2.2 nonempty present
  have split : pieces "aa".toList "aaaaa".toList = [[], [], ['a']] := by decide +kernel
  have same := (spliced.unique _).1 (split ▸ gaps_pieces (by decide) _)
  cases same
  exact ⟨nonempty, present, spliced⟩

end Rule

end Emend
