import Emend.Proofs.NearMissSearch

/-! # What a near miss points at

The lines that a near miss names are lines of the buffer and of the expected text. The search is
also written out here with every window, slice and index checked where it is used; no check ever
fails.
-/

namespace Emend.NearMiss

variable {α : Type} [Score α] {minimum : α} {lines wanted : List (List Char)}

/-! ## The search with its checks -/

/-- A step that reaches out of its list. -/
inductive Misstep where
  /-- Windows have to have a line. -/
  | emptyWindow
  | slice (start stop length : Nat)
  | index (place length : Nat)
  deriving Repr, DecidableEq

def checkedWindows (size : Nat) (lines : List (List Char)) :
    Except Misstep (List (List (List Char))) :=
  if size = 0 then .error .emptyWindow else .ok (windows size lines)

def checkedSlice (lines : List (List Char)) (start stop : Nat) :
    Except Misstep (List (List Char)) :=
  if start ≤ stop ∧ stop ≤ lines.length then .ok ((lines.drop start).take (stop - start))
  else .error (.slice start stop lines.length)

def checkedIndex (lines : List (List Char)) (place : Nat) : Except Misstep (List Char) :=
  match lines[place]? with
  | some line => .ok line
  | none => .error (.index place lines.length)

/-- The search, with a misstep where a step reaches out of its list. -/
def checkedFind? (minimum : α) (buffer expected : String) :
    Except Misstep (Option (NearMiss α)) := do
  let wanted := Text.lines expected.toList
  let lines := Text.lines buffer.toList
  if wanted.isEmpty || lines.length < wanted.length then return none
  else
    let candidates ← checkedWindows wanted.length lines
    match firstBest none 0 (candidates.map (windowScore · wanted)) with
    | none => return none
    | some (start, score) =>
        if !Score.atMost minimum score then return none
        else
          let window ← checkedSlice lines start (start + wanted.length)
          let found ← checkedIndex window (offset window wanted)
          let line ← checkedIndex wanted (offset window wanted)
          return some {
            line := start + 1
            similarity := score
            divergentLine := start + offset window wanted + 1
            found := String.ofList found
            expected := String.ofList line }

theorem EarliestBest.unique {start other : Nat} (best : EarliestBest α lines wanted start)
    (same : EarliestBest α lines wanted other) : start = other := by
  rcases Nat.lt_trichotomy start other with before | equal | behind
  · have lower := same.first start before
    rw [best.best other same.inside] at lower
    cases lower
  · exact equal
  · have lower := best.first other behind
    rw [same.best start best.inside] at lower
    cases lower

theorem EarliestBest.roomy {start : Nat} (best : EarliestBest α lines wanted start)
    (filled : wanted ≠ []) : ¬ (wanted = [] ∨ lines.length < wanted.length) := by
  rintro (empty | short)
  · exact filled empty
  · have room := best.inside
    omega

theorem Searched.unique {result other : Option (NearMiss α)}
    (searched : Searched minimum lines wanted result) (again : Searched minimum lines wanted other) :
    result = other := by
  cases searched with
  | nothing short =>
      cases again with
      | nothing => rfl
      | unlike => rfl
      | hint filled best => exact (best.roomy filled short).elim
  | unlike filled best low =>
      cases again with
      | nothing => rfl
      | unlike => rfl
      | hint _ same high =>
          cases best.unique same
          cases low.symm.trans high
  | hint filled best high here there =>
      cases again with
      | nothing short => exact (best.roomy filled short).elim
      | unlike _ same low =>
          cases best.unique same
          cases low.symm.trans high
      | hint _ same _ here' there' =>
          cases best.unique same
          cases here.symm.trans here'
          cases there.symm.trans there'
          rfl

theorem checkedIndex_of_some {place : Nat} {line : List Char} (here : lines[place]? = some line) :
    checkedIndex lines place = .ok line := by
  simp only [checkedIndex, here]

theorem searched_checkedFind? [Score.Ordered α] (minimum : α) (buffer expected : String) :
    ∃ result, checkedFind? minimum buffer expected = .ok result ∧
      Searched minimum (Text.lines buffer.toList) (Text.lines expected.toList) result := by
  unfold checkedFind?
  generalize Text.lines buffer.toList = lines
  generalize Text.lines expected.toList = wanted
  dsimp only
  split
  · next small =>
      refine ⟨none, rfl, .nothing ?_⟩
      simpa using small
  · next large =>
      have filled : wanted ≠ [] := by
        rintro rfl
        exact large rfl
      have positive : wanted.length ≠ 0 := fun zero => filled (List.length_eq_zero_iff.1 zero)
      rw [checkedWindows, if_neg positive]
      rcases firstBest_windows (α := α) filled lines with
        ⟨none, short⟩ | ⟨start, best, found⟩
      · simp only [bind, Except.bind, none]
        exact ⟨_, rfl, .nothing (.inr short)⟩
      · obtain ⟨line, expected, inWindow, here, there⟩ := best.exists_offset filled
        have slice : checkedSlice lines start (start + wanted.length) =
            .ok ((lines.drop start).take wanted.length) := by
          rw [checkedSlice, if_pos ⟨Nat.le_add_right _ _, best.inside⟩, Nat.add_sub_cancel_left]
        simp only [bind, Except.bind, found, slice, checkedIndex_of_some inWindow,
          checkedIndex_of_some there]
        cases compared : Score.atMost minimum (scoreAt lines wanted start) with
        | false => exact ⟨_, rfl, .unlike filled best compared⟩
        | true => exact ⟨_, rfl, .hint filled best compared here there⟩

theorem checkedFind?_eq [Score.Ordered α] (minimum : α) (buffer expected : String) :
    checkedFind? minimum buffer expected = .ok (find? minimum buffer expected) := by
  obtain ⟨result, checked, searched⟩ := searched_checkedFind? minimum buffer expected
  rw [checked, searched.unique (searched_find? minimum buffer expected)]

/-! ## The lines that are named -/

/-- The lines of a near miss are where it says, and it names the first that differ if any do. -/
structure Located (lines wanted : List (List Char)) (hint : NearMiss α) : Prop where
  line_pos : 1 ≤ hint.line
  line_le : hint.line ≤ hint.divergentLine
  divergentLine_lt : hint.divergentLine < hint.line + wanted.length
  inside : hint.line + wanted.length - 1 ≤ lines.length
  found : lines[hint.divergentLine - 1]? = some hint.found.toList
  expected : wanted[hint.divergentLine - hint.line]? = some hint.expected.toList
  /-- The lines before the one that is named are as expected, -/
  agree : ∀ number, hint.line ≤ number → number < hint.divergentLine →
    ∃ line, lines[number - 1]? = some line ∧ wanted[number - hint.line]? = some line
  /-- and so is that one only if all of them are. -/
  same : hint.found = hint.expected ↔
    (lines.drop (hint.line - 1)).take wanted.length = wanted

theorem Searched.located {hint : NearMiss α}
    (searched : Searched minimum lines wanted (some hint)) : Located lines wanted hint := by
  cases searched with
  | @hint start found line filled best high here there =>
      have room := best.inside
      obtain ⟨inside, agree, same⟩ := offset_spec (length_window best.inside) filled
      generalize shape : (lines.drop start).take wanted.length = window at *
      generalize offset window wanted = place at *
      have inWindow {place : Nat} (inside : place < wanted.length) :
          window[place]? = lines[start + place]? := by
        rw [← shape, getElem?_window inside]
      refine {
        line_pos := Nat.le_add_left 1 start
        line_le := Nat.succ_le_succ (Nat.le_add_right start place)
        divergentLine_lt := by
          dsimp only
          omega
        inside := by
          dsimp only
          omega
        found := by simpa using here
        expected := ?_
        agree := ?_
        same := ?_ }
      · have distance : start + place + 1 - (start + 1) = place := by omega
        simpa [distance] using there
      · intro number low high
        obtain ⟨earlier, rfl⟩ := Nat.exists_eq_add_of_le low
        dsimp only at high
        have less : earlier < place := by omega
        have bound : earlier < wanted.length := Nat.lt_trans less inside
        have before : start + 1 + earlier - 1 = start + earlier := by omega
        have equal : lines[start + earlier]? = some wanted[earlier] := by
          rw [← inWindow bound, agree earlier less, List.getElem?_eq_getElem bound]
        exact ⟨wanted[earlier], by simpa [before] using equal, by simp⟩
      · have whole : (lines.drop (start + 1 - 1)).take wanted.length = window := shape
        have named : window[place]? = some found := (inWindow inside).trans here
        dsimp only
        rw [whole, String.ofList_inj]
        constructor
        · rintro rfl
          exact same (named.trans there.symm)
        · rintro rfl
          exact Option.some.inj (named.symm.trans there)

/-- The search never reaches out of a list, and whatever it points at is there: the window lies in
the buffer, the line named is one of its lines, and it is as expected up to that line. -/
theorem finds_located (buffer expected : String) :
    checkedFind? (leastScore : Binary64) buffer expected =
      .ok (find? (leastScore : Binary64) buffer expected) ∧
    ∀ hint, find? (leastScore : Binary64) buffer expected = some hint →
      Located (Text.lines buffer.toList) (Text.lines expected.toList) hint := by
  refine ⟨checkedFind?_eq leastScore buffer expected, fun hint found => ?_⟩
  have searched := searched_find? (leastScore : Binary64) buffer expected
  rw [found] at searched
  exact searched.located

/-- The window is neither the first nor the last, and its first line is as expected. -/
example :
    (find? (leastScore : Binary64) "a\nlet x = 1;\nrun(x);\nb" "let x = 1;\nrun(y);").map
      (fun hint => (hint.line, hint.divergentLine, hint.found)) = some (2, 3, "run(x);") := by
  decide +kernel

end Emend.NearMiss
