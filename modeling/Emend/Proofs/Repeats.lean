import Emend.RuleSet
import Mathlib.Data.List.Induction
import Mathlib.Data.List.Nodup
import Mathlib.Data.List.Pairwise
import Mathlib.Data.List.Perm.Basic

/-! # Identifiers that are met again

A list of identifiers is read from its beginning on. The identifiers that are met again are listed
once for each time that this happens, or once at all; in the latter case they come in the order in
which they are met for the second time, which need not be that of the first time.
-/

namespace Emend

variable {seen ids found other : List String} {x y : String} {times : Nat}

/-! ## When an identifier is met -/

/-- One identifier is met so many times before another one is. -/
def MetSooner (times : Nat) (ids : List String) (x y : String) : Prop :=
  ∃ early, early <+: ids ∧ times ≤ early.count x ∧ early.count y < times

theorem MetSooner.append (sooner : MetSooner times ids x y) (more : List String) :
    MetSooner times (ids ++ more) x y := by
  obtain ⟨early, start, met, unmet⟩ := sooner
  exact ⟨early, start.trans (List.prefix_append ids more), met, unmet⟩

theorem MetSooner.asymm (sooner : MetSooner times ids x y) : ¬ MetSooner times ids y x := by
  rintro ⟨late, start', met', unmet'⟩
  obtain ⟨early, start, met, unmet⟩ := sooner
  rcases List.prefix_or_prefix_of_prefix start start' with shorter | shorter
  · have bound := shorter.count_le x
    omega
  · have bound := shorter.count_le y
    omega

/-! ## Each identifier once

The first of equal identifiers is kept, so lists are read from their end here: the last identifier
is new or changes nothing.
-/

theorem eraseDups_concat (ids : List String) (x : String) :
    (ids ++ [x]).eraseDups = if x ∈ ids then ids.eraseDups else ids.eraseDups ++ [x] := by
  rw [List.eraseDups_append, List.cons_removeAll]
  by_cases met : x ∈ ids <;> simp [met, List.removeAll, List.eraseDups_cons]

theorem nodup_eraseDups (ids : List String) : ids.eraseDups.Nodup := by
  induction ids using List.reverseRecOn with
  | nil => simp
  | append_singleton ids x ih =>
      rw [eraseDups_concat]
      split
      · exact ih
      · next unmet =>
          rw [← List.concat_eq_append, List.nodup_concat]
          exact ⟨fun member => unmet (List.mem_eraseDups.1 member), ih⟩

theorem sorted_eraseDups (ids : List String) : ids.eraseDups.Pairwise (MetSooner 1 ids) := by
  induction ids using List.reverseRecOn with
  | nil => simp
  | append_singleton ids x ih =>
      have before := ih.imp fun sooner => sooner.append [x]
      rw [eraseDups_concat]
      split
      · exact before
      · next unmet =>
          refine List.pairwise_append.2 ⟨before, List.pairwise_singleton _ _, ?_⟩
          intro y member z last
          obtain rfl := List.mem_singleton.1 last
          refine ⟨ids, List.prefix_append ids _, ?_, ?_⟩
          · exact List.count_pos_iff.2 (List.mem_eraseDups.1 member)
          · rw [List.count_eq_zero_of_not_mem unmet]
            exact Nat.one_pos

theorem filter_eraseDups (p : String → Bool) (ids : List String) :
    ids.eraseDups.filter p = (ids.filter p).eraseDups := by
  induction ids using List.reverseRecOn with
  | nil => rfl
  | append_singleton ids x ih =>
      cases kept : p x with
      | false =>
          have dropped : (ids ++ [x]).filter p = ids.filter p := by simp [kept]
          rw [eraseDups_concat, dropped, ← ih]
          split <;> simp [kept]
      | true =>
          have last : (ids ++ [x]).filter p = ids.filter p ++ [x] := by simp [kept]
          rw [eraseDups_concat, last, eraseDups_concat, ← ih]
          simp only [List.mem_filter, kept, and_true]
          split <;> simp [kept]

/-! ## Each time that an identifier is met again -/

/-- The identifiers behind `seen` that were met before, as often as they are met. -/
def metAgain (seen : List String) : List String → List String
  | [] => []
  | id :: rest => if id ∈ seen then id :: metAgain seen rest else metAgain (id :: seen) rest

theorem metAgain_congr {seen other : List String} (same : ∀ id, id ∈ seen ↔ id ∈ other)
    (ids : List String) : metAgain seen ids = metAgain other ids := by
  induction ids generalizing seen other with
  | nil => rfl
  | cons id rest ih =>
      have later : metAgain (id :: seen) rest = metAgain (id :: other) rest :=
        ih fun x => by simp [same]
      simp only [metAgain, same id, ih same, later]

theorem count_metAgain (seen ids : List String) (x : String) :
    (metAgain seen ids).count x = ids.count x - if x ∈ seen then 0 else 1 := by
  induction ids generalizing seen with
  | nil => simp [metAgain]
  | cons id rest ih =>
      rw [metAgain]
      by_cases same : id = x
      · subst same
        by_cases met : id ∈ seen <;> simp [met, ih]
      · by_cases met : id ∈ seen <;> simp [met, ih, same, Ne.symm same]

theorem metAgain_filter (p : String → Bool) (seen ids : List String) :
    (metAgain seen ids).filter p = metAgain (seen.filter p) (ids.filter p) := by
  induction ids generalizing seen with
  | nil => rfl
  | cons id rest ih =>
      by_cases met : id ∈ seen <;> cases kept : p id <;> simp [metAgain, met, kept, ih]

theorem exists_prefix_of_metAgain {early : List String} (start : early <+: metAgain seen ids) :
    ∃ front, front <+: ids ∧ metAgain seen front = early := by
  induction ids generalizing seen early with
  | nil => exact ⟨[], List.prefix_refl [], (List.prefix_nil.1 start).symm⟩
  | cons id rest ih =>
      rw [metAgain] at start
      split at start
      · next met =>
          cases early with
          | nil => exact ⟨[], List.nil_prefix, rfl⟩
          | cons first early =>
              obtain ⟨rfl, later⟩ := List.cons_prefix_cons.1 start
              obtain ⟨front, before, rfl⟩ := ih later
              exact ⟨first :: front, (List.prefix_cons_inj first).2 before, by simp [metAgain, met]⟩
      · next unmet =>
          obtain ⟨front, before, rfl⟩ := ih start
          exact ⟨id :: front, (List.prefix_cons_inj id).2 before, by simp [metAgain, unmet]⟩

/-- The first time that an identifier is met again is the second time that it is met. -/
theorem MetSooner.of_metAgain (sooner : MetSooner 1 (metAgain [] ids) x y) :
    MetSooner 2 ids x y := by
  obtain ⟨early, start, met, unmet⟩ := sooner
  obtain ⟨front, before, rfl⟩ := exists_prefix_of_metAgain start
  simp only [count_metAgain, List.not_mem_nil, if_false] at met unmet
  exact ⟨front, before, by omega, by omega⟩

/-! ## The listing of a rule set -/

/-- All identifiers that are met at least twice, each of them once, in the order in which they are
met for the first time, or for another time. -/
structure ListsRepeated (times : Nat) (ids found : List String) : Prop where
  nodup : found.Nodup
  mem_iff : ∀ id, id ∈ found ↔ 2 ≤ ids.count id
  sorted : found.Pairwise (MetSooner times ids)

theorem ListsRepeated.unique (listed : ListsRepeated times ids found)
    (again : ListsRepeated times ids other) : found = other := by
  have same : found.Perm other := by
    rw [List.perm_ext_iff_of_nodup listed.nodup again.nodup]
    intro id
    rw [listed.mem_iff, again.mem_iff]
  refine same.eq_of_pairwise ?_ listed.sorted again.sorted
  intro x y _ _ sooner later
  exact (sooner.asymm later).elim

theorem listsRepeated_first (ids : List String) :
    ListsRepeated 1 ids (ids.eraseDups.filter (2 ≤ ids.count ·)) where
  nodup := (nodup_eraseDups ids).filter _
  mem_iff id := by
    rw [List.mem_filter, List.mem_eraseDups, decide_eq_true_iff, and_iff_right_iff_imp]
    intro twice
    exact List.count_pos_iff.1 (by omega)
  sorted := (sorted_eraseDups ids).filter _

theorem listsRepeated_metAgain (ids : List String) :
    ListsRepeated 2 ids (metAgain [] ids).eraseDups where
  nodup := nodup_eraseDups _
  mem_iff id := by
    rw [List.mem_eraseDups, ← List.count_pos_iff, count_metAgain]
    simp only [List.not_mem_nil, if_false]
    omega
  sorted := (sorted_eraseDups _).imp MetSooner.of_metAgain

/-- Both orders are the same exactly if second meetings come in the order of the first ones. -/
theorem ListsRepeated.first_iff (listed : ListsRepeated 2 ids found) :
    ListsRepeated 1 ids found ↔
      ∀ x ∈ found, ∀ y ∈ found, MetSooner 1 ids x y → MetSooner 2 ids x y := by
  constructor
  · intro first x here y there sooner
    obtain ⟨i, inside, rfl⟩ := List.getElem_of_mem here
    obtain ⟨j, within, rfl⟩ := List.getElem_of_mem there
    rcases Nat.lt_trichotomy i j with before | rfl | behind
    · exact List.pairwise_iff_getElem.1 listed.sorted i j inside within before
    · exact (sooner.asymm sooner).elim
    · have after := List.pairwise_iff_getElem.1 first.sorted j i within inside behind
      exact (after.asymm sooner).elim
  · intro ordered
    have first := listsRepeated_first ids
    have second : ListsRepeated 2 ids (ids.eraseDups.filter (2 ≤ ids.count ·)) := by
      refine ⟨first.nodup, first.mem_iff, first.sorted.imp_of_mem ?_⟩
      intro x y here there sooner
      refine ordered x ?_ y ?_ sooner
      · rw [listed.mem_iff, ← first.mem_iff]
        exact here
      · rw [listed.mem_iff, ← first.mem_iff]
        exact there
    rw [listed.unique second]
    exact first

namespace RuleSet

theorem removeAll_concat (ids found : List String) (id : String) :
    ids.removeAll (found ++ [id]) = (ids.removeAll found).filter fun other => !other == id := by
  rw [List.removeAll, List.removeAll, List.filter_filter]
  exact List.filter_congr fun other _ => by simp [Bool.and_comm, Bool.beq_eq_decide_eq]

/-- The loop lists what it has not listed yet of the identifiers that are met again. -/
theorem repeatedIds_eq (seen found : List String) (rules : List NamedRule) :
    repeatedIds seen found rules =
      found ++ ((metAgain seen (rules.map NamedRule.id)).removeAll found).eraseDups := by
  -- Both lists of the loop grow, `found` at its end, so neither is a fixed one.
  induction rules generalizing seen found with
  | nil => simp [repeatedIds, metAgain]
  | cons named rest ih =>
      simp only [repeatedIds, List.map_cons, metAgain, List.contains_iff_mem]
      split
      · by_cases listed : named.id ∈ found
        · simp [listed, ih, List.cons_removeAll]
        · simp [listed, ih, List.cons_removeAll, List.eraseDups_cons, removeAll_concat]
      · exact ih _ _

theorem duplicateIds_eq (set : RuleSet) :
    set.duplicateIds = (metAgain [] (set.rules.map NamedRule.id)).eraseDups := by
  simp [duplicateIds, repeatedIds_eq]

theorem listsRepeated_duplicateIds (set : RuleSet) :
    ListsRepeated 2 (set.rules.map NamedRule.id) set.duplicateIds := by
  rw [duplicateIds_eq]
  exact listsRepeated_metAgain _

/-- The identifiers that more than one rule has are listed once each, in the order in which they
are met for the second time. That is the order in which they are first seen only if no two of them
change places between the first time and the second. -/
theorem duplicateIds_by_second_meeting (set : RuleSet) :
    ListsRepeated 2 (set.rules.map NamedRule.id) set.duplicateIds ∧
    (set.duplicateIds = ((set.rules.map NamedRule.id).eraseDups.filter
        fun id => 2 ≤ (set.rules.map NamedRule.id).count id) ↔
      ∀ x ∈ set.duplicateIds, ∀ y ∈ set.duplicateIds,
        MetSooner 1 (set.rules.map NamedRule.id) x y →
          MetSooner 2 (set.rules.map NamedRule.id) x y) := by
  have listed := listsRepeated_duplicateIds set
  have first := listsRepeated_first (set.rules.map NamedRule.id)
  refine ⟨listed, Iff.trans ?_ listed.first_iff⟩
  constructor
  · intro same
    rw [same]
    exact first
  · intro sorted
    exact sorted.unique first

/-- The identifier `a` is seen before `b`, but `b` is seen twice before `a` is. -/
theorem duplicateIds_not_by_first_meeting :
    ¬ ∀ set : RuleSet, set.duplicateIds = ((set.rules.map NamedRule.id).eraseDups.filter
      fun id => 2 ≤ (set.rules.map NamedRule.id).count id) := by
  intro sorted
  have listed := sorted <| (new "").literal "a" "x" "y" |>.literal "b" "x" "y"
    |>.literal "b" "x" "y" |>.literal "a" "x" "y"
  revert listed
  decide

end RuleSet

end Emend
