import Emend.NearMiss

/-! # Where the near miss is

The search keeps the best score seen so far and gives it up only for a better one. What remains at
the end is the first of the best windows, which is pointed out if its score is high enough.
-/

namespace Emend

/-- Scores can all be compared. -/
class Score.Ordered (α : Type) [Score α] : Prop where
  total : ∀ x y : α, Score.atMost x y = true ∨ Score.atMost y x = true
  trans : ∀ {x y z : α}, Score.atMost x y = true → Score.atMost y z = true →
    Score.atMost x z = true

instance : Score.Ordered Binary64 where
  total x y := by
    simp only [Score.atMost, decide_eq_true_eq]
    exact Nat.le_total x.bits y.bits
  trans := by
    intro x y z
    simp only [Score.atMost, decide_eq_true_eq]
    exact Nat.le_trans

namespace NearMiss

variable {α : Type} [Score α]

/-! ## The first of the best scores -/

/-- No score is higher than one, and all before it are lower. -/
structure FirstBest (scores : List α) (place : Nat) (score : α) : Prop where
  here : scores[place]? = some score
  best : ∀ other ∈ scores, Score.atMost other score = true
  first : ∀ earlier other, earlier < place → scores[earlier]? = some other →
    Score.atMost score other = false

/-- What is kept of the scores seen so far. -/
def Tracks (seen : List α) : Option (Nat × α) → Prop
  | none => seen = []
  | some (place, score) => FirstBest seen place score

variable {seen scores : List α} {top : Option (Nat × α)}

theorem FirstBest.keep {place : Nat} {best : α} (before : FirstBest seen place best) {score : α}
    (lower : Score.atMost score best = true) : FirstBest (seen ++ [score]) place best where
  here := by
    have inside := (List.getElem?_eq_some_iff.1 before.here).1
    rw [List.getElem?_append_left inside]
    exact before.here
  best := by
    intro other member
    rcases List.mem_append.1 member with old | new
    · exact before.best other old
    · rw [List.mem_singleton.1 new]
      exact lower
  first := by
    intro earlier other less found
    have inside := (List.getElem?_eq_some_iff.1 before.here).1
    rw [List.getElem?_append_left (Nat.lt_trans less inside)] at found
    exact before.first earlier other less found

section Ordered

variable [Score.Ordered α]

theorem atMost_self (x : α) : Score.atMost x x = true :=
  (Score.Ordered.total x x).elim id id

theorem atMost_of_not {x y : α} (above : Score.atMost x y = false) : Score.atMost y x = true := by
  rcases Score.Ordered.total x y with below | below
  · rw [above] at below
    cases below
  · exact below

theorem firstBest_append {score : α}
    (higher : ∀ other ∈ seen, Score.atMost score other = false) :
    FirstBest (seen ++ [score]) seen.length score where
  here := by simp
  best := by
    intro other member
    rcases List.mem_append.1 member with old | new
    · exact atMost_of_not (higher other old)
    · rw [List.mem_singleton.1 new]
      exact atMost_self score
  first := by
    intro earlier other less found
    rw [List.getElem?_append_left less] at found
    exact higher other (List.mem_of_getElem? found)

theorem FirstBest.higher {place : Nat} {best score : α} (before : FirstBest seen place best)
    (above : Score.atMost score best = false) :
    ∀ other ∈ seen, Score.atMost score other = false := by
  intro other member
  cases below : Score.atMost score other with
  | false => rfl
  | true =>
      have under := Score.Ordered.trans below (before.best other member)
      rw [above] at under
      cases under

theorem Tracks.step (tracks : Tracks seen top) (score : α) :
    Tracks (seen ++ [score])
      (if (match top with
        | some (_, best) => !Score.atMost score best
        | none => true) then some (seen.length, score) else top) := by
  cases top with
  | none =>
      obtain rfl : seen = [] := tracks
      exact firstBest_append fun other member => by cases member
  | some best =>
      obtain ⟨place, best⟩ := best
      have before : FirstBest seen place best := tracks
      cases compared : Score.atMost score best with
      | false =>
          simp only [compared, Bool.not_false, if_true]
          exact firstBest_append (before.higher compared)
      | true =>
          simp only [compared, Bool.not_true, Bool.false_eq_true, if_false]
          exact before.keep compared

theorem tracks_firstBest (tracks : Tracks seen top) (scores : List α) :
    Tracks (seen ++ scores) (firstBest top seen.length scores) := by
  induction scores generalizing seen top with
  | nil =>
      rw [List.append_nil]
      exact tracks
  | cons score rest ih =>
      have later := ih (tracks.step score)
      rw [List.append_assoc, List.length_append] at later
      exact later

end Ordered

/-! ## Windows -/

theorem getElem?_windows {size : Nat} (positive : 0 < size) (lines : List (List Char))
    (start : Nat) :
    (windows size lines)[start]? =
      if start + size ≤ lines.length then some ((lines.drop start).take size) else none := by
  induction lines generalizing start with
  | nil =>
      have outside : ¬ start + size ≤ 0 := by omega
      simp only [windows, List.getElem?_nil, List.length_nil, outside, if_false]
  | cons line rest ih =>
      rw [windows]
      split
      · next fits =>
          cases start with
          | zero =>
              have inside : 0 + size ≤ (line :: rest).length := by simpa using fits
              rw [if_pos inside]
              rfl
          | succ start =>
              have shifted : start + 1 + size ≤ (line :: rest).length ↔
                  start + size ≤ rest.length := by
                rw [List.length_cons]
                omega
              rw [List.getElem?_cons_succ, ih, List.drop_succ_cons]
              simp only [shifted]
      · next short =>
          have outside : ¬ start + size ≤ (line :: rest).length := by
            rw [List.length_cons]
            omega
          rw [if_neg outside]
          rfl

theorem getElem?_window {start size place : Nat} (inside : place < size)
    (lines : List (List Char)) :
    ((lines.drop start).take size)[place]? = lines[start + place]? := by
  rw [List.getElem?_take_of_lt inside, List.getElem?_drop]

def scoreAt (lines wanted : List (List Char)) (start : Nat) : α :=
  windowScore ((lines.drop start).take wanted.length) wanted

variable (α) in
/-- No window is more like the wanted lines than one, and all before it are less like them. -/
structure EarliestBest (lines wanted : List (List Char)) (start : Nat) : Prop where
  inside : start + wanted.length ≤ lines.length
  best : ∀ other, other + wanted.length ≤ lines.length →
    Score.atMost (scoreAt lines wanted other : α) (scoreAt lines wanted start) = true
  first : ∀ other, other < start →
    Score.atMost (scoreAt lines wanted start : α) (scoreAt lines wanted other) = false

variable {lines wanted : List (List Char)}

theorem getElem?_scores (filled : wanted ≠ []) (lines : List (List Char)) (start : Nat) :
    ((windows wanted.length lines).map (windowScore (α := α) · wanted))[start]? =
      if start + wanted.length ≤ lines.length then some (scoreAt lines wanted start) else none := by
  rw [List.getElem?_map, getElem?_windows (List.length_pos_iff.2 filled)]
  split <;> rfl

theorem firstBest_windows [Score.Ordered α] (filled : wanted ≠ []) (lines : List (List Char)) :
    (firstBest none 0 ((windows wanted.length lines).map (windowScore (α := α) · wanted)) = none ∧
      lines.length < wanted.length) ∨
    ∃ start, EarliestBest α lines wanted start ∧
      firstBest none 0 ((windows wanted.length lines).map (windowScore · wanted)) =
        some (start, scoreAt (α := α) lines wanted start) := by
  have start : Tracks ([] : List α) none := rfl
  have tracks := tracks_firstBest start
    ((windows wanted.length lines).map (windowScore · wanted))
  rw [List.nil_append, List.length_nil] at tracks
  have at_place := getElem?_scores (α := α) filled lines
  cases found : firstBest none 0
      ((windows wanted.length lines).map (windowScore (α := α) · wanted)) with
  | none =>
      rw [found] at tracks
      have empty : (windows wanted.length lines).map (windowScore (α := α) · wanted) = [] := tracks
      refine .inl ⟨rfl, ?_⟩
      have none_here := at_place 0
      rw [empty, List.getElem?_nil] at none_here
      split at none_here
      · cases none_here
      · next short => omega
  | some best =>
      obtain ⟨start, score⟩ := best
      rw [found] at tracks
      have first : FirstBest _ start score := tracks
      have here := first.here
      rw [at_place] at here
      split at here
      · next inside =>
          cases here
          refine .inr ⟨start, ⟨inside, ?_, ?_⟩, rfl⟩
          · intro other fits
            exact first.best _ (List.mem_of_getElem? ((at_place other).trans (if_pos fits)))
          · intro other less
            exact first.first other _ less ((at_place other).trans (if_pos (by omega)))
      · cases here

/-! ## Divergence -/

theorem eq_of_divergence?_eq_none {found expected : List (List Char)}
    (size : found.length = expected.length) (none : divergence? found expected = none) :
    found = expected := by
  induction found generalizing expected with
  | nil => exact (List.length_eq_zero_iff.1 size.symm).symm
  | cons f found ih =>
      cases expected with
      | nil => cases size
      | cons e expected =>
          simp only [divergence?] at none
          split at none
          · next same =>
              rw [same, ih (Nat.succ.inj size) (Option.map_eq_none_iff.1 none)]
          · cases none

theorem of_divergence?_eq_some {found expected : List (List Char)} {place : Nat}
    (diverge : divergence? found expected = some place) :
    place < expected.length ∧ (∀ earlier, earlier < place → found[earlier]? = expected[earlier]?) ∧
      found[place]? ≠ expected[place]? := by
  induction found generalizing expected place with
  | nil => cases diverge
  | cons f found ih =>
      cases expected with
      | nil => cases diverge
      | cons e expected =>
          simp only [divergence?] at diverge
          split at diverge
          · next same =>
              obtain ⟨place, later, rfl⟩ := Option.map_eq_some_iff.1 diverge
              obtain ⟨inside, agree, differ⟩ := ih later
              refine ⟨Nat.succ_lt_succ inside, ?_, differ⟩
              intro earlier less
              cases earlier with
              | zero => exact congrArg some same
              | succ earlier => exact agree earlier (Nat.lt_of_succ_lt_succ less)
          · next differ =>
              cases diverge
              refine ⟨Nat.succ_pos _, fun _ less => absurd less (Nat.not_lt_zero _), ?_⟩
              exact fun same => differ (Option.some.inj same)

/-- The place in a window that is pointed out. -/
def offset (window wanted : List (List Char)) : Nat := (divergence? window wanted).getD 0

/-- The window agrees with the wanted lines up to that place. It does so behind it only if it is
the wanted lines. -/
theorem offset_spec {window wanted : List (List Char)} (size : window.length = wanted.length)
    (filled : wanted ≠ []) :
    offset window wanted < wanted.length ∧
      (∀ earlier, earlier < offset window wanted → window[earlier]? = wanted[earlier]?) ∧
      (window[offset window wanted]? = wanted[offset window wanted]? → window = wanted) := by
  cases diverge : divergence? window wanted with
  | none =>
      have zero : offset window wanted = 0 := by rw [offset, diverge, Option.getD_none]
      rw [zero]
      refine ⟨List.length_pos_iff.2 filled, fun _ less => absurd less (Nat.not_lt_zero _), ?_⟩
      exact fun _ => eq_of_divergence?_eq_none size diverge
  | some place =>
      have found : offset window wanted = place := by rw [offset, diverge, Option.getD_some]
      obtain ⟨inside, agree, differ⟩ := of_divergence?_eq_some diverge
      rw [found]
      exact ⟨inside, agree, fun same => absurd same differ⟩

/-! ## What is found -/

/-- What the search for lines comes to. -/
inductive Searched (minimum : α) (lines wanted : List (List Char)) : Option (NearMiss α) → Prop
  /-- There is nothing to look for, or no room for it. -/
  | nothing (short : wanted = [] ∨ lines.length < wanted.length) : Searched minimum lines wanted none
  /-- The best window is too little like it. -/
  | unlike {start : Nat} (filled : wanted ≠ []) (best : EarliestBest α lines wanted start)
      (low : Score.atMost minimum (scoreAt lines wanted start) = false) :
      Searched minimum lines wanted none
  /-- The best window is pointed out. -/
  | hint {start : Nat} {found line : List Char} (filled : wanted ≠ [])
      (best : EarliestBest α lines wanted start)
      (high : Score.atMost minimum (scoreAt lines wanted start) = true)
      (here : lines[start + offset ((lines.drop start).take wanted.length) wanted]? = some found)
      (there : wanted[offset ((lines.drop start).take wanted.length) wanted]? = some line) :
      Searched minimum lines wanted (some {
        line := start + 1
        similarity := scoreAt lines wanted start
        divergentLine := start + offset ((lines.drop start).take wanted.length) wanted + 1
        found := String.ofList found
        expected := String.ofList line })

theorem length_window {start : Nat} (inside : start + wanted.length ≤ lines.length) :
    ((lines.drop start).take wanted.length).length = wanted.length := by
  simp only [List.length_take, List.length_drop]
  omega

theorem EarliestBest.exists_offset {start : Nat} (best : EarliestBest α lines wanted start)
    (filled : wanted ≠ []) :
    ∃ found line,
      ((lines.drop start).take wanted.length)[
        offset ((lines.drop start).take wanted.length) wanted]? = some found ∧
      lines[start + offset ((lines.drop start).take wanted.length) wanted]? = some found ∧
      wanted[offset ((lines.drop start).take wanted.length) wanted]? = some line := by
  obtain ⟨inside, _, _⟩ := offset_spec (length_window best.inside) filled
  generalize offset ((lines.drop start).take wanted.length) wanted = place at inside
  have bound : start + place < lines.length := by
    have room := best.inside
    omega
  have here : lines[start + place]? = some lines[start + place] := List.getElem?_eq_getElem bound
  exact ⟨_, _, (getElem?_window inside lines).trans here, here, List.getElem?_eq_getElem inside⟩

theorem searched_find? [Score.Ordered α] (minimum : α) (buffer expected : String) :
    Searched minimum (Text.lines buffer.toList) (Text.lines expected.toList)
      (find? minimum buffer expected) := by
  unfold find?
  generalize Text.lines buffer.toList = lines
  generalize Text.lines expected.toList = wanted
  cases wanted with
  | nil => exact .nothing (.inl rfl)
  | cons first more =>
      have filled : first :: more ≠ [] := List.cons_ne_nil first more
      generalize first :: more = wanted at filled
      have shape : wanted.isEmpty = false := by simpa using filled
      simp only [shape, Bool.false_eq_true, if_false]
      rcases firstBest_windows (α := α) filled lines with
        ⟨none, short⟩ | ⟨start, best, found⟩
      · rw [none]
        exact .nothing (.inr short)
      · rw [found]
        obtain ⟨line, expected, inWindow, here, there⟩ := best.exists_offset filled
        have window := getElem?_windows (List.length_pos_iff.2 filled) lines start
        rw [if_pos best.inside] at window
        cases compared : Score.atMost minimum (scoreAt lines wanted start) with
        | false =>
            simp only [bind, Option.bind, compared, Bool.not_false, if_true]
            exact .unlike filled best compared
        | true =>
            simp only [bind, Option.bind, compared, Bool.not_true, Bool.false_eq_true, if_false,
              window]
            rw [offset] at inWindow there
            simp only [inWindow, there]
            exact .hint filled best compared here there

/-- Nothing is found if there is no window, or if all windows are too little like the lines. -/
theorem find?_eq_none_iff [Score.Ordered α] {minimum : α} {buffer expected : String} :
    find? minimum buffer expected = none ↔
      Text.lines expected.toList = [] ∨
      (Text.lines buffer.toList).length < (Text.lines expected.toList).length ∨
      ∀ start, start + (Text.lines expected.toList).length ≤ (Text.lines buffer.toList).length →
        Score.atMost minimum (scoreAt (Text.lines buffer.toList) (Text.lines expected.toList) start)
          = false := by
  have searched := searched_find? minimum buffer expected
  generalize Text.lines buffer.toList = lines at *
  generalize Text.lines expected.toList = wanted at *
  generalize find? minimum buffer expected = result at *
  cases searched with
  | nothing short =>
      refine iff_of_true rfl ?_
      rcases short with empty | short
      · exact .inl empty
      · exact .inr (.inl short)
  | @unlike start filled best low =>
      refine iff_of_true rfl (.inr (.inr fun other fits => ?_))
      cases compared : Score.atMost minimum (scoreAt lines wanted other) with
      | false => rfl
      | true =>
          have high := Score.Ordered.trans compared (best.best other fits)
          rw [low] at high
          cases high
  | @hint start found line filled best high =>
      refine iff_of_false (Option.some_ne_none _) ?_
      rintro (empty | short | low)
      · exact filled empty
      · have room := best.inside
        omega
      · rw [low start best.inside] at high
        cases high

/-- The search comes to nothing exactly if no window is enough like the expected lines. Otherwise
it points at the first of the windows that are most like them. -/
theorem finds_earliest_best (buffer expected : String) :
    (find? (leastScore : Binary64) buffer expected = none ↔
      Text.lines expected.toList = [] ∨
      (Text.lines buffer.toList).length < (Text.lines expected.toList).length ∨
      ∀ start, start + (Text.lines expected.toList).length ≤ (Text.lines buffer.toList).length →
        Score.atMost (leastScore : Binary64)
          (scoreAt (Text.lines buffer.toList) (Text.lines expected.toList) start) = false) ∧
    ∀ hint, find? (leastScore : Binary64) buffer expected = some hint →
      ∃ start, EarliestBest Binary64 (Text.lines buffer.toList) (Text.lines expected.toList) start ∧
        hint.line = start + 1 ∧
        hint.similarity =
          scoreAt (Text.lines buffer.toList) (Text.lines expected.toList) start := by
  refine ⟨find?_eq_none_iff, fun hint found => ?_⟩
  have searched := searched_find? (leastScore : Binary64) buffer expected
  rw [found] at searched
  cases searched with
  | hint filled best => exact ⟨_, best, rfl, rfl⟩

/-- Of two windows that are alike the first is pointed out. -/
example : (find? (leastScore : Binary64) "x\nlet a\nlet b" "let c").map (·.line) = some 2 := by
  decide +kernel

end NearMiss

end Emend
