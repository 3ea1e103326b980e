import Emend.Text.Occurrence
import Mathlib.Data.List.Infix

/-! # Where a target occurs

The search for a target is tied to prefixes and infixes of lists: it fails on the texts that do
not have the target as a part, and what it finds is the leftmost occurrence. Whether an
occurrence is the leftmost one depends only on the text up to its end. A block of text that
cannot overlap the target splits the search: every occurrence lies on one side of it.
-/

namespace Emend.Text

variable {target text before rest front block : List Char}

theorem after?_eq_none_iff : after? target text = none ↔ ¬ target <+: text := by
  constructor
  · rintro absent ⟨rest, rfl⟩
    simp at absent
  · intro absent
    cases found : after? target text with
    | none => rfl
    | some rest => exact absurd ⟨rest, (eq_append_of_after? found).symm⟩ absent

theorem cut?_cons_of_not_start {c : Char} (absent : ¬ target <+: c :: text) :
    cut? target (c :: text) =
      (cut? target text).map fun (before, rest) => (c :: before, rest) := by
  simp only [cut?, after?_eq_none_iff.2 absent]

@[simp]
theorem cut?_append_self (target rest : List Char) :
    cut? target (target ++ rest) = some ([], rest) := by
  cases same : target ++ rest with
  | nil =>
      obtain ⟨rfl, rfl⟩ := List.append_eq_nil_iff.1 same
      rfl
  | cons c text => simp only [cut?, ← same, after?_append]

theorem cut?_eq_none_iff : cut? target text = none ↔ ¬ target <:+: text := by
  induction text with
  | nil =>
      cases target with
      | nil => simp [cut?, after?]
      | cons t target => simp [cut?, after?]
  | cons c text ih =>
      by_cases start : target <+: c :: text
      · obtain ⟨rest, same⟩ := start
        rw [← same, cut?_append_self]
        simpa using (List.prefix_append target rest).isInfix
      · rw [cut?_cons_of_not_start start, Option.map_eq_none_iff, ih, List.infix_cons_iff]
        simp [start]

theorem cut?_append_of_clean
    (clean : ∀ tail, tail ≠ [] → tail <:+ front → ¬ target <+: tail ++ rest) :
    cut? target (front ++ rest) =
      (cut? target rest).map fun (before, behind) => (front ++ before, behind) := by
  induction front with
  | nil => simp
  | cons c front ih =>
      have later : ∀ tail, tail ≠ [] → tail <:+ front → ¬ target <+: tail ++ rest :=
        fun tail filled inside => clean tail filled (inside.trans (List.suffix_cons c front))
      have absent : ¬ target <+: c :: (front ++ rest) :=
        clean (c :: front) (List.cons_ne_nil _ _) List.suffix_rfl
      rw [List.cons_append, cut?_cons_of_not_start absent, ih later, Option.map_map]
      rfl

/-- What is found is the leftmost occurrence: no tail of the text before it starts another. -/
theorem leftmost_of_cut?_eq_some (found : cut? target text = some (before, rest)) :
    ∀ tail, tail ≠ [] → tail <:+ before → ¬ target <+: tail ++ target := by
  induction text generalizing before with
  | nil =>
      obtain ⟨rest, _, same⟩ := Option.map_eq_some_iff.1 found
      cases same
      intro tail filled inside
      exact absurd (List.suffix_nil.1 inside) filled
  | cons c text ih =>
      intro tail filled inside begins
      by_cases start : target <+: c :: text
      · obtain ⟨behind, same⟩ := start
        rw [← same, cut?_append_self] at found
        cases found
        exact filled (List.suffix_nil.1 inside)
      · have whole := eq_append_of_cut? found
        rw [cut?_cons_of_not_start start] at found
        obtain ⟨⟨later, behind⟩, foundLater, same⟩ := Option.map_eq_some_iff.1 found
        cases same
        rcases List.suffix_cons_iff.1 inside with rfl | inside
        · exact start (whole ▸ begins.trans (List.prefix_append _ _))
        · exact ih foundLater tail filled inside begins

/-- Whether an occurrence is found does not depend on what follows it. -/
theorem cut?_eq_some_iff : cut? target text = some (before, rest) ↔
    text = before ++ target ++ rest ∧
      ∀ tail, tail ≠ [] → tail <:+ before → ¬ target <+: tail ++ target := by
  constructor
  · intro found
    exact ⟨eq_append_of_cut? found, leftmost_of_cut?_eq_some found⟩
  · rintro ⟨rfl, leftmost⟩
    have clean : ∀ tail, tail ≠ [] → tail <:+ before → ¬ target <+: tail ++ (target ++ rest) := by
      intro tail filled inside begins
      refine leftmost tail filled inside (List.prefix_of_prefix_length_le begins ?_ (by simp))
      rw [← List.append_assoc]
      exact List.prefix_append _ _
    rw [List.append_assoc, cut?_append_of_clean clean]
    simp

theorem cut?_append_of_eq_some (found : cut? target text = some (before, rest))
    (more : List Char) : cut? target (text ++ more) = some (before, rest ++ more) := by
  obtain ⟨rfl, leftmost⟩ := cut?_eq_some_iff.1 found
  exact cut?_eq_some_iff.2 ⟨by simp, leftmost⟩

theorem cut?_of_other_rest (found : cut? target text = some (before, rest))
    (other : List Char) : cut? target (before ++ target ++ other) = some (before, other) :=
  cut?_eq_some_iff.2 ⟨rfl, (cut?_eq_some_iff.1 found).2⟩

theorem infix_of_cut?_eq_some (found : cut? target text = some (before, rest)) :
    before <:+: text ∧ rest <:+: text := by
  rw [eq_append_of_cut? found, List.append_assoc]
  exact ⟨(List.prefix_append _ _).isInfix,
    ((List.suffix_append _ _).trans (List.suffix_append _ _)).isInfix⟩

theorem not_infix_before (filled : target ≠ []) (found : cut? target text = some (before, rest)) :
    ¬ target <:+: before := by
  rintro ⟨front, back, rfl⟩
  refine (cut?_eq_some_iff.1 found).2 (target ++ back) (by simp [filled]) ?_ ?_
  · rw [List.append_assoc]
    exact List.suffix_append _ _
  · rw [List.append_assoc]
    exact List.prefix_append _ _

/-! ## Texts that cannot overlap -/

/-- Two texts cannot overlap: neither is a part of the other, and no end of one is a start of
the other. -/
structure Apart (x y : List Char) : Prop where
  not_infix : ¬ x <:+: y
  not_contains : ¬ y <:+: x
  ends : ∀ part, part ≠ [] → part <:+ x → ¬ part <+: y
  starts : ∀ part, part ≠ [] → part <:+ y → ¬ part <+: x

theorem Apart.symm {x y : List Char} (apart : Apart x y) : Apart y x :=
  ⟨apart.not_contains, apart.not_infix, apart.starts, apart.ends⟩

theorem apart_iff {x y : List Char} : Apart x y ↔
    (¬ x <:+: y ∧ ¬ y <:+: x) ∧ (∀ part ∈ x.tails, part ≠ [] → ¬ part <+: y) ∧
      ∀ part ∈ y.tails, part ≠ [] → ¬ part <+: x := by
  simp only [List.mem_tails]
  constructor
  · rintro ⟨inside, outside, ends, starts⟩
    exact ⟨⟨inside, outside⟩, fun part suffix filled => ends part filled suffix,
      fun part suffix filled => starts part filled suffix⟩
  · rintro ⟨⟨inside, outside⟩, ends, starts⟩
    exact ⟨inside, outside, fun part filled suffix => ends part suffix filled,
      fun part filled suffix => starts part suffix filled⟩

instance (x y : List Char) : Decidable (Apart x y) := decidable_of_iff _ apart_iff.symm

/-- No occurrence begins in a block that cannot overlap the target, nor in a front without the
target that stands before such a block. -/
theorem Apart.clean (apart : Apart target block) (absent : ¬ target <:+: front)
    (rest : List Char) :
    ∀ tail, tail ≠ [] → tail <:+ front ++ block → ¬ target <+: tail ++ rest := by
  intro tail filled inside begins
  rcases List.suffix_or_suffix_of_suffix inside (List.suffix_append front block) with
    inBlock | ⟨part, rfl⟩
  · rcases List.prefix_or_prefix_of_prefix begins (List.prefix_append tail rest) with short | long
    · exact apart.not_infix (short.isInfix.trans inBlock.isInfix)
    · exact apart.starts tail filled inBlock long
  · have inFront : part <:+ front := List.suffix_append_self_iff.1 inside
    rw [List.append_assoc] at begins
    rcases List.prefix_or_prefix_of_prefix begins (List.prefix_append part _) with
      short | ⟨piece, rfl⟩
    · exact absent (short.isInfix.trans inFront.isInfix)
    · -- The target begins in the front and goes on with `piece` in the block.
      have goesOn := (List.prefix_append_right_inj part).1 begins
      rcases List.prefix_or_prefix_of_prefix goesOn (List.prefix_append block rest) with
        short | long
      · by_cases ended : piece = []
        · subst ended
          rw [List.append_nil] at absent
          exact absent inFront.isInfix
        · exact apart.ends piece ended (List.suffix_append part piece) short
      · exact apart.not_contains (long.isInfix.trans (List.suffix_append part piece).isInfix)

theorem cut?_append_of_apart (apart : Apart target block) (absent : cut? target front = none)
    (rest : List Char) :
    cut? target (front ++ block ++ rest) =
      (cut? target rest).map fun (before, behind) => (front ++ block ++ before, behind) :=
  cut?_append_of_clean (apart.clean (cut?_eq_none_iff.1 absent) rest)

theorem Apart.ne_nil {x y : List Char} (apart : Apart x y) : x ≠ [] := by
  rintro rfl
  exact apart.not_infix List.nil_infix

end Emend.Text
