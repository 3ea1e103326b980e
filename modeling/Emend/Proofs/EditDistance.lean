import Emend.Text.EditDistance
import Mathlib.Data.List.Induction
import Mathlib.Order.Bounds.Basic

/-! # What the edit distance counts

Edits go along two texts from their beginnings and keep, change, drop or add one character at a
time. The rows of distances hold the least numbers of edits between the beginnings of two texts,
so what remains at the end is the least number of edits between the texts.
-/

namespace Emend.Text

/-- A number of edits turns one text into another. -/
inductive Edits : List Char → List Char → Nat → Prop where
  | none : Edits [] [] 0
  | keep {a b n} (c : Char) : Edits a b n → Edits (a ++ [c]) (b ++ [c]) n
  | change {a b n} (c d : Char) : Edits a b n → Edits (a ++ [c]) (b ++ [d]) (n + 1)
  | drop {a b n} (c : Char) : Edits a b n → Edits (a ++ [c]) b (n + 1)
  | add {a b n} (d : Char) : Edits a b n → Edits a (b ++ [d]) (n + 1)

variable {a b : List Char} {c d : Char} {n m k l : Nat}

namespace Edits

theorem self (a : List Char) : Edits a a 0 := by
  induction a using List.reverseRecOn with
  | nil => exact .none
  | append_singleton a c ih => exact .keep c ih

theorem eq_of_zero (edits : Edits a b 0) : a = b := by
  generalize zero : 0 = n at edits
  induction edits with
  | none => rfl
  | keep c _ ih => rw [ih zero]
  | change | drop | add => omega

theorem of_nil_left (b : List Char) : Edits [] b b.length := by
  induction b using List.reverseRecOn with
  | nil => exact .none
  | append_singleton b d ih =>
      rw [List.length_append]
      exact .add d ih

theorem length_le_add (edits : Edits a b n) :
    a.length ≤ b.length + n ∧ b.length ≤ a.length + n := by
  induction edits with
  | none => simp
  | keep | change | drop | add =>
      simp only [List.length_append, List.length_singleton]
      omega

/-- The longer text is long enough for an edit of each of its characters. -/
theorem exists_le_max (a b : List Char) : ∃ n, n ≤ max a.length b.length ∧ Edits a b n := by
  induction a using List.reverseRecOn generalizing b with
  | nil => exact ⟨b.length, Nat.le_max_right _ _, of_nil_left b⟩
  | append_singleton a c ih =>
      cases b using List.reverseRecOn with
      | nil =>
          obtain ⟨n, bound, edits⟩ := ih []
          refine ⟨n + 1, ?_, edits.drop c⟩
          simp only [List.length_append, List.length_singleton, List.length_nil] at bound ⊢
          omega
      | append_singleton b d _ =>
          obtain ⟨n, bound, edits⟩ := ih b
          refine ⟨n + 1, ?_, edits.change c d⟩
          simp only [List.length_append, List.length_singleton]
          omega

theorem of_concat (edits : Edits (a ++ [c]) (b ++ [d]) n) :
    (c = d ∧ Edits a b n) ∨
      ∃ m, n = m + 1 ∧ (Edits a b m ∨ Edits a (b ++ [d]) m ∨ Edits (a ++ [c]) b m) := by
  -- The texts are no patterns of the constructors, so they are made equations first.
  generalize left : a ++ [c] = before at edits
  generalize right : b ++ [d] = behind at edits
  cases edits with
  | none => simp at left
  | keep e edits =>
      obtain ⟨rfl, same⟩ := List.append_inj' left rfl
      obtain ⟨rfl, again⟩ := List.append_inj' right rfl
      cases same
      cases again
      exact .inl ⟨rfl, edits⟩
  | change e f edits =>
      obtain ⟨rfl, _⟩ := List.append_inj' left rfl
      obtain ⟨rfl, _⟩ := List.append_inj' right rfl
      exact .inr ⟨_, rfl, .inl edits⟩
  | drop e edits =>
      obtain ⟨rfl, _⟩ := List.append_inj' left rfl
      subst right
      exact .inr ⟨_, rfl, .inr (.inl edits)⟩
  | add f edits =>
      obtain ⟨rfl, _⟩ := List.append_inj' right rfl
      subst left
      exact .inr ⟨_, rfl, .inr (.inr edits)⟩

end Edits

/-- No fewer edits turn one text into another. -/
def Distance (a b : List Char) (n : Nat) : Prop := IsLeast {m | Edits a b m} n

theorem distance_nil_left (b : List Char) : Distance [] b b.length := by
  refine ⟨Edits.of_nil_left b, fun m edits => ?_⟩
  simpa using edits.length_le_add.2

theorem Distance.concat_nil (distance : Distance a [] n) (c : Char) :
    Distance (a ++ [c]) [] (n + 1) := by
  refine ⟨distance.1.drop c, fun m edits => ?_⟩
  have small : n ≤ a.length := by
    obtain ⟨k, bound, edits⟩ := Edits.exists_le_max a []
    exact Nat.le_trans (distance.2 edits) (by simpa using bound)
  have large := edits.length_le_add.1
  simp only [List.length_append, List.length_singleton, List.length_nil] at large
  omega

theorem Distance.concat (kept : Distance a b m) (above : Distance a (b ++ [d]) k)
    (left : Distance (a ++ [c]) b l) :
    Distance (a ++ [c]) (b ++ [d]) (min (if c = d then m else m + 1) (min l k + 1)) := by
  constructor
  · have last : Edits (a ++ [c]) (b ++ [d]) (if c = d then m else m + 1) := by
      split
      · next same => exact same ▸ kept.1.keep c
      · exact kept.1.change c d
    rcases Nat.le_total (if c = d then m else m + 1) (min l k + 1) with first | other
    · rw [Nat.min_eq_left first]
      exact last
    · rw [Nat.min_eq_right other]
      rcases Nat.le_total l k with fewer | fewer
      · rw [Nat.min_eq_left fewer]
        exact left.1.add d
      · rw [Nat.min_eq_right fewer]
        exact above.1.drop c
  · intro n edits
    rcases Edits.of_concat edits with ⟨same, fewer⟩ | ⟨n, rfl, fewer | fewer | fewer⟩
    · have bound := kept.2 fewer
      rw [if_pos same]
      omega
    · have bound := kept.2 fewer
      split <;> omega
    · have bound := above.2 fewer
      omega
    · have bound := left.2 fewer
      omega

/-- A row holds the distances from a text to the beginnings of another that go on from `q`. -/
inductive DistancesAlong (a : List Char) : (q text : List Char) → (row : List Nat) → Prop where
  | nil {q} : DistancesAlong a q [] []
  | cons {q d text n row} : Distance a (q ++ [d]) n → DistancesAlong a (q ++ [d]) text row →
      DistancesAlong a q (d :: text) (n :: row)

variable {q text : List Char} {row : List Nat}

theorem distancesAlong_range (q text : List Char) :
    DistancesAlong [] q text (List.range' (q.length + 1) text.length) := by
  induction text generalizing q with
  | nil => exact .nil
  | cons d text ih =>
      have here := distance_nil_left (q ++ [d])
      have later := ih (q ++ [d])
      rw [List.length_append, List.length_singleton] at here later
      exact .cons here later

theorem DistancesAlong.next (along : DistancesAlong a q text row) (c : Char)
    (left : Distance (a ++ [c]) q l) (diagonal : Distance a q m) :
    DistancesAlong (a ++ [c]) q text (nextDistances c l m text row) := by
  induction along generalizing l m with
  | nil => exact .nil
  | cons above _ ih =>
      have here := diagonal.concat above left
      exact .cons here (ih here above)

theorem DistancesAlong.last (along : DistancesAlong a q text row) (first : Distance a q n) :
    Distance a (q ++ text) ((n :: row).getLastD 0) := by
  induction along generalizing n with
  | nil => simpa using first
  | cons here _ ih => simpa [List.getLastD] using ih here

/-- A whole row has the distances from a text to every beginning of another. -/
def IsRow (a text : List Char) (row : List Nat) : Prop :=
  ∃ first rest, row = first :: rest ∧ Distance a [] first ∧ DistancesAlong a [] text rest

theorem isRow_range (text : List Char) : IsRow [] text (List.range (text.length + 1)) := by
  refine ⟨0, List.range' 1 text.length, ?_, distance_nil_left [], distancesAlong_range [] text⟩
  rw [List.range_eq_range', List.range'_succ]

theorem IsRow.next (isRow : IsRow a text row) (c : Char) :
    IsRow (a ++ [c]) text (nextRow text row c) := by
  obtain ⟨first, rest, rfl, start, along⟩ := isRow
  exact ⟨_, _, rfl, start.concat_nil c, along.next c (start.concat_nil c) start⟩

theorem IsRow.foldl (isRow : IsRow q text row) (a : List Char) :
    IsRow (q ++ a) text (a.foldl (nextRow text) row) := by
  -- `q` is the part of the first text that the row has been computed for.
  induction a generalizing q row with
  | nil => simpa using isRow
  | cons c a ih => simpa using ih (isRow.next c)

/-- The edit distance is the least number of edits that turn one text into the other. -/
theorem distance_editDistance (a b : List Char) : Distance a b (editDistance a b) := by
  obtain ⟨first, rest, row, start, along⟩ := (isRow_range b).foldl a
  rw [editDistance, row]
  exact along.last start

theorem editDistance_le (a b : List Char) : editDistance a b ≤ max a.length b.length := by
  obtain ⟨n, bound, edits⟩ := Edits.exists_le_max a b
  exact Nat.le_trans ((distance_editDistance a b).2 edits) bound

theorem editDistance_eq_zero_iff {a b : List Char} : editDistance a b = 0 ↔ a = b := by
  constructor
  · intro zero
    have edits := (distance_editDistance a b).1
    rw [zero] at edits
    exact edits.eq_of_zero
  · rintro rfl
    exact Nat.le_zero.1 ((distance_editDistance a a).2 (Edits.self a))

end Emend.Text
