import Emend.Proofs.PlacedChanges
import Emend.Proofs.UnifiedPatches

/-! # Where hunks lie

Hunks are stretches of a difference, one behind the other, with kept lines between them. Those that
lie between two changes have the right places, so that only the first part of a difference and the
last one can make a header wrong.
-/

namespace Emend.Diff

/-- What the header of a hunk tells of a text. -/
def hunkSpan (place : Change → Nat) (lines : Change → List (List Char)) (hunk : Hunk) : Span :=
  match hunk.head?, hunk.getLast? with
  | some first, some last => ⟨place first, place last + (lines last).length - place first⟩
  | _, _ => ⟨0, 0⟩

def asRead (hunk : Hunk) : PatchHunk :=
  ⟨hunkSpan Change.old Change.oldLines hunk, hunkSpan Change.new Change.newLines hunk,
    hunk.flatMap Change.marked⟩

/-- The first part has a given place. -/
def StartsAt (place : Change → Nat) (n : Nat) (parts : List Change) : Prop :=
  ∀ first ∈ parts.head?, place first = n

/-- The last part stops at a given place. -/
def StopsAt (place : Change → Nat) (lines : Change → List (List Char)) (n : Nat)
    (parts : List Change) : Prop :=
  ∀ last ∈ parts.getLast?, place last + (lines last).length = n

/-- The first part tells where it starts in the second text, and the last one where it stops in
both. -/
structure EndsInPlace (old new : Nat) (olds news : List (List Char)) (parts : List Change) :
    Prop where
  newStart : StartsAt Change.new new parts
  oldStop : StopsAt Change.old Change.oldLines (old + olds.length) parts
  newStop : StopsAt Change.new Change.newLines (new + news.length) parts

/-- Hunks one behind the other, from given places on, that lead from one text to another. All lines
that no hunk has are kept. -/
inductive Shown : (old new : Nat) → (olds news : List (List Char)) → List Hunk → Prop where
  | rest {old new kept} : Shown old new kept kept []
  | hunk {old new gap olds news olds' news' hunk hunks} : hunk ≠ [] →
      StartsAt Change.old (old + gap.length) hunk →
      Tells (old + gap.length) (new + gap.length) olds news hunk →
      (hunks ≠ [] → olds ≠ []) →
      Shown (old + gap.length + olds.length) (new + gap.length + news.length) olds' news' hunks →
      Shown old new (gap ++ (olds ++ olds')) (gap ++ (news ++ news')) (hunk :: hunks)

variable {old new o n : Nat} {olds news gap kept lines : List (List Char)} {part : Change}
  {parts front back : List Change} {hunk : Hunk}

theorem endsInPlace_iff :
    EndsInPlace old new olds news parts ↔
      StartsAt Change.new new parts ∧
        StopsAt Change.old Change.oldLines (old + olds.length) parts ∧
        StopsAt Change.new Change.newLines (new + news.length) parts :=
  ⟨fun ends => ⟨ends.newStart, ends.oldStop, ends.newStop⟩,
    fun ends => ⟨ends.1, ends.2.1, ends.2.2⟩⟩

/-! ## Lines of hunks -/

theorem oldOf_marked (part : Change) : oldOf part.marked = part.oldLines := by
  cases part <;> simp [oldOf, Change.marked, Change.oldLines, List.filter_map, Function.comp_def]

theorem newOf_marked (part : Change) : newOf part.marked = part.newLines := by
  cases part <;> simp [newOf, Change.marked, Change.newLines, List.filter_map, Function.comp_def]

theorem oldOf_asRead (tells : Tells old new olds news hunk) : oldOf (asRead hunk).lines = olds := by
  rw [← tells.flatMap_oldLines]
  simp only [asRead, oldOf, List.filter_flatMap, List.map_flatMap]
  exact List.flatMap_congr fun part _ => oldOf_marked part

theorem newOf_asRead (tells : Tells old new olds news hunk) : newOf (asRead hunk).lines = news := by
  rw [← tells.flatMap_newLines]
  simp only [asRead, newOf, List.filter_flatMap, List.map_flatMap]
  exact List.flatMap_congr fun part _ => newOf_marked part

theorem place_asRead (filled : hunk ≠ []) (starts : StartsAt Change.old old hunk) :
    (asRead hunk).old.place = old := by
  obtain ⟨first, more, rfl⟩ := List.exists_cons_of_ne_nil filled
  simpa [asRead, hunkSpan, List.getLast?_cons] using starts first rfl

theorem counted_asRead (filled : hunk ≠ []) (starts : StartsAt Change.old old hunk)
    (tells : Tells old new olds news hunk) (held : old = 0 ∧ new = 0 ∨ olds ≠ [] ∧ news ≠ []) :
    Patch.Counted (asRead hunk) new ↔ EndsInPlace old new olds news hunk := by
  rw [Patch.Counted, oldOf_asRead tells, newOf_asRead tells]
  obtain ⟨first, more, rfl⟩ := List.exists_cons_of_ne_nil filled
  have starts : first.old = old := starts first rfl
  -- A range that stops before it starts counts no lines, but there are some.
  have held : old = 0 ∧ new = 0 ∨ 0 < olds.length ∧ 0 < news.length :=
    held.imp id fun some => some.imp List.length_pos_iff.2 List.length_pos_iff.2
  simp only [asRead, hunkSpan, endsInPlace_iff, StartsAt, StopsAt, List.head?_cons,
    List.getLast?_cons, Option.mem_some_iff, forall_eq', Span.mk.injEq, starts]
  omega

/-! ## Cutting kept lines -/

section Ends

variable {part' : Change} {back' : List Change} {m : Nat} {place : Change → Nat}
  {lines : Change → List (List Char)}

theorem startsAt_append_cons (same : place part = place part') :
    StartsAt place m (front ++ part :: back) ↔ StartsAt place m (front ++ part' :: back') := by
  cases front <;> simp [StartsAt, same]

theorem stopsAt_append_cons (front front' : List Change)
    (same : place part + (lines part).length = place part' + (lines part').length) :
    StopsAt place lines m (front ++ part :: back) ↔
      StopsAt place lines m (front' ++ part' :: back) := by
  cases back <;> simp [StopsAt, List.getLast?_append, List.getLast?_cons, same]

end Ends

namespace Tells

theorem same_iff :
    Tells old new olds news (.same lines o n :: parts) ↔
      lines ≠ [] ∧ o = old ∧ n = new ∧
        ∃ olds' news', olds = lines ++ olds' ∧ news = lines ++ news' ∧
          Tells (old + lines.length) (new + lines.length) olds' news' parts := by
  rw [cons_iff]
  constructor
  · rintro ⟨olds', news', rfl, rfl, lies, later⟩
    have filled : lines ≠ [] := lies.filled.elim id id
    exact ⟨filled, lies.old_eq filled, lies.new_eq filled, olds', news', rfl, rfl, later⟩
  · rintro ⟨filled, rfl, rfl, olds', news', rfl, rfl, later⟩
    exact ⟨olds', news', rfl, rfl, ⟨.inl filled, fun _ => rfl, fun _ => rfl⟩, later⟩

theorem filled_of_same (front : List Change) 
    (tells : Tells old new olds news (front ++ .same lines o n :: back)) :
    olds ≠ [] ∧ news ≠ [] := by
  obtain ⟨olds₁, olds₂, news₁, news₂, rfl, rfl, _, behind⟩ := tells.split
  obtain ⟨filled, _, _, _, _, rfl, rfl, _⟩ := same_iff.1 behind
  simp [filled]

theorem stops_of_same (front : List Change)
    (tells : Tells old new olds news (front ++ [.same lines o n])) :
    StopsAt Change.old Change.oldLines (old + olds.length) (front ++ [.same lines o n]) ∧
      StopsAt Change.new Change.newLines (new + news.length) (front ++ [.same lines o n]) := by
  obtain ⟨olds₁, olds₂, news₁, news₂, rfl, rfl, _, behind⟩ := tells.split
  obtain ⟨_, rfl, rfl, _, _, rfl, rfl, later⟩ := same_iff.1 behind
  obtain ⟨rfl, rfl⟩ := nil_iff.1 later
  simp [StopsAt, Change.old, Change.new, Change.oldLines, Change.newLines, Nat.add_assoc]

theorem endsInPlace_of_same {lines' : List (List Char)} {o' n' : Nat}
    (tells : Tells old new olds news parts) (first : parts = .same lines o n :: back)
    (last : parts = front ++ [.same lines' o' n']) : EndsInPlace old new olds news parts := by
  have newStart : StartsAt Change.new new parts := by
    subst first
    obtain ⟨_, _, rfl, _⟩ := same_iff.1 tells
    simp [StartsAt, Change.new]
  subst last
  obtain ⟨oldStop, newStop⟩ := tells.stops_of_same front
  exact ⟨newStart, oldStop, newStop⟩

/-- Kept lines are cut: the first ones end a stretch, and the last ones begin another. -/
theorem cut {first last : List (List Char)} (filled : first ≠ []) (filled' : last ≠ [])
    (tells : Tells old new olds news (front ++ .same (first ++ (kept ++ last)) o n :: back)) :
    ∃ olds₁ olds₂ news₁ news₂, olds = olds₁ ++ (kept ++ olds₂) ∧ news = news₁ ++ (kept ++ news₂) ∧
      Tells old new olds₁ news₁ (front ++ [.same first o n]) ∧
      Tells (old + olds₁.length + kept.length) (new + news₁.length + kept.length) olds₂ news₂
        (.same last (o + (first ++ kept).length) (n + (first ++ kept).length) :: back) := by
  obtain ⟨olds₁, olds₂, news₁, news₂, rfl, rfl, before, behind⟩ := tells.split
  obtain ⟨_, rfl, rfl, olds, news, rfl, rfl, later⟩ := same_iff.1 behind
  have one : Tells (old + olds₁.length) (new + news₁.length) first first
      [.same first (old + olds₁.length) (new + news₁.length)] :=
    same_iff.2 ⟨filled, rfl, rfl, [], [], by simp, by simp, .nil⟩
  refine ⟨olds₁ ++ first, last ++ olds, news₁ ++ first, last ++ news, by simp, by simp,
    before.append one, same_iff.2 ⟨filled', ?_, ?_, olds, news, rfl, rfl, ?_⟩⟩
  · simp only [List.length_append, Nat.add_assoc]
  · simp only [List.length_append, Nat.add_assoc]
  · simpa only [List.length_append, Nat.add_assoc] using later

end Tells

theorem eq_cut_of_long (long : 2 * context < lines.length) :
    ∃ kept, lines = lines.take context ++ (kept ++ lines.drop (lines.length - context)) ∧
      (lines.take context ++ kept).length = lines.length - context := by
  refine ⟨(lines.drop context).take (lines.length - context - context), ?_, ?_⟩
  · have inside : (lines.drop context).drop (lines.length - context - context) =
        lines.drop (lines.length - context) := by
      rw [List.drop_drop]
      congr 1
      omega
    rw [← inside, List.take_append_drop, List.take_append_drop]
  · simp only [List.length_append, List.length_take, List.length_drop]
    omega

theorem take_context_ne_nil (filled : lines ≠ []) : lines.take context ≠ [] := by
  simp [context, filled]

theorem drop_context_ne_nil (filled : lines ≠ []) : lines.drop (lines.length - context) ≠ [] := by
  have := List.length_pos_iff.2 filled
  simp only [ne_eq, List.drop_eq_nil_iff, context]
  omega

/-- A hunk ends with the first of many kept lines, and the next one begins with the last of them. -/
theorem Tells.cut_long (long : 2 * context < lines.length)
    (tells : Tells old new olds news (front ++ .same lines o n :: back)) :
    ∃ kept olds₁ olds₂ news₁ news₂,
      olds = olds₁ ++ (kept ++ olds₂) ∧ news = news₁ ++ (kept ++ news₂) ∧
      Tells old new olds₁ news₁ (front ++ [.same (lines.take context) o n]) ∧
      let k := lines.length - context
      Tells (old + olds₁.length + kept.length) (new + news₁.length + kept.length) olds₂ news₂
        (.same (lines.drop k) (o + k) (n + k) :: back) := by
  have filled : lines ≠ [] := List.ne_nil_of_length_pos (by omega)
  obtain ⟨kept, whole, size⟩ := eq_cut_of_long long
  rw [whole] at tells
  obtain ⟨olds₁, olds₂, news₁, news₂, rfl, rfl, first, second⟩ :=
    tells.cut (take_context_ne_nil filled) (drop_context_ne_nil filled)
  rw [size] at second
  exact ⟨kept, olds₁, olds₂, news₁, news₂, rfl, rfl, first, second⟩

/-! ## Hunks of a difference -/

/-- The hunks that are cut lead from one text to the other, whatever parts the first of them has been
given already. Lines behind the last one are kept. -/
theorem shown_cutHunks (current : Hunk) (parts : List Change) (rest : List (List Char))
    (tells : Tells (old + gap.length) (new + gap.length) olds news (current.reverse ++ parts))
    (starts : StartsAt Change.old (old + gap.length) (current.reverse ++ parts)) :
    Shown old new (gap ++ (olds ++ rest)) (gap ++ (news ++ rest)) (cutHunks current parts) := by
  fun_induction cutHunks current parts generalizing old new gap olds news with
  | case1 =>
      obtain ⟨rfl, rfl⟩ := Tells.nil_iff.1 tells
      exact .rest
  | case2 lines o n =>
      obtain ⟨_, _, _, _, _, rfl, rfl, later⟩ := Tells.same_iff.1 tells
      obtain ⟨rfl, rfl⟩ := Tells.nil_iff.1 later
      exact .rest
  | case3 parts some _ =>
      rw [List.append_nil] at tells starts
      exact .hunk (by simpa using some) starts tells (by simp) .rest
  | case4 current lines o n behind long k =>
      rename_i ih
      obtain ⟨kept, olds₁, olds₂, news₁, news₂, rfl, rfl, first, second⟩ := tells.cut_long long
      have later := ih second fun part head => by
        obtain rfl : _ = part := by simpa using head
        exact (Tells.same_iff.1 second).2.1
      simp only [List.reverse_cons, List.append_assoc]
      exact .hunk (by simp) ((startsAt_append_cons (by rfl)).1 starts) first
        (fun _ => (first.filled_of_same _).1) later
  | case5 current lines o n behind short ih =>
      exact ih (by simpa using tells) (by simpa using starts)
  | case6 current part behind other ih =>
      exact ih (by simpa using tells) (by simpa using starts)

theorem counted_cutHunks (current : Hunk) (parts : List Change)
    (tells : Tells (old + gap.length) (new + gap.length) olds news (current.reverse ++ parts))
    (starts : StartsAt Change.old (old + gap.length) (current.reverse ++ parts))
    (held : old + gap.length = 0 ∧ new + gap.length = 0 ∨ olds ≠ [] ∧ news ≠ []) :
    Patch.AllCounted old new ((cutHunks current parts).map asRead) ↔
      EndsInPlace (old + gap.length) (new + gap.length) olds news (current.reverse ++ parts) := by
  fun_induction cutHunks current parts generalizing old new gap olds news with
  | case1 => simp [Patch.AllCounted, endsInPlace_iff, StartsAt, StopsAt]
  | case2 lines o n =>
      obtain ⟨oldStop, newStop⟩ := tells.stops_of_same []
      obtain ⟨_, _, rfl, _⟩ := Tells.same_iff.1 tells
      exact ⟨fun _ => ⟨by simp [StartsAt, Change.new], oldStop, newStop⟩, fun _ => trivial⟩
  | case3 parts some _ =>
      rw [List.append_nil] at tells starts ⊢
      have filled : parts.reverse ≠ [] := by simpa using some
      rw [List.map_singleton, Patch.allCounted_cons (place_asRead filled starts),
        counted_asRead filled starts tells held]
      exact and_iff_left trivial
  | case4 current lines o n behind long k =>
      rename_i ih
      obtain ⟨kept, olds₁, olds₂, news₁, news₂, rfl, rfl, first, second⟩ := tells.cut_long long
      have opens : StartsAt Change.old (old + gap.length)
          (current.reverse ++ [.same (lines.take context) o n]) :=
        (startsAt_append_cons (by rfl)).1 starts
      obtain ⟨oldStop, newStop⟩ := first.stops_of_same _
      obtain ⟨_, oldStart, newStart, _⟩ := Tells.same_iff.1 second
      have opens' : StartsAt Change.new (new + gap.length + news₁.length + kept.length)
          ([.same (lines.drop k) (o + k) (n + k)].reverse ++ behind) := by
        simpa [StartsAt, Change.new] using newStart
      have later := ih second (by simpa [StartsAt, Change.old] using oldStart)
        (.inr (second.filled_of_same []))
      rw [List.reverse_cons, List.map_cons, Patch.allCounted_cons (place_asRead (by simp) opens),
        oldOf_asRead first, newOf_asRead first, later,
        counted_asRead (by simp) opens first (.inr (first.filled_of_same _))]
      -- At the cut both hunks have kept lines, which are in place: only the outer ends matter.
      simp only [endsInPlace_iff, oldStop, newStop, opens', and_true, true_and]
      have covered : k + (lines.drop k).length = lines.length := by
        simp only [List.length_drop]
        omega
      refine and_congr (startsAt_append_cons rfl) (and_congr ?_ ?_)
      · simp only [List.length_append, ← Nat.add_assoc]
        exact stopsAt_append_cons [] current.reverse (by
          simp only [Change.old, Change.oldLines, Nat.add_assoc, covered])
      · simp only [List.length_append, ← Nat.add_assoc]
        exact stopsAt_append_cons [] current.reverse (by
          simp only [Change.new, Change.newLines, Nat.add_assoc, covered])
  | case5 current lines o n behind short ih =>
      simpa using ih (by simpa using tells) (by simpa using starts) held
  | case6 current part behind other ih =>
      simpa using ih (by simpa using tells) (by simpa using starts) held

theorem trimHead_eq (parts : List Change) :
    trimHead parts = parts ∨ ∃ dropped left o n rest,
      parts = .same (dropped ++ left) o n :: rest ∧ (dropped ++ left ≠ [] → left ≠ []) ∧
        trimHead parts = .same left (o + dropped.length) (n + dropped.length) :: rest := by
  rcases parts with _ | ⟨⟨lines, o, n⟩ | _, rest⟩
  · exact .inl rfl
  · refine .inr ⟨lines.take (lines.length - context), lines.drop (lines.length - context), o, n,
      rest, ?_, ?_, ?_⟩
    · rw [List.take_append_drop]
    · rw [List.take_append_drop]
      exact drop_context_ne_nil
    · simp [trimHead]
  · exact .inl rfl

theorem trimTail_eq (parts : List Change) :
    trimTail parts = parts ∨ ∃ front left dropped o n,
      parts = front ++ [.same (left ++ dropped) o n] ∧ (left ++ dropped ≠ [] → left ≠ []) ∧
        trimTail parts = front ++ [.same left o n] := by
  fun_induction trimTail parts with
  | case1 => exact .inl rfl
  | case2 lines o n =>
      refine .inr ⟨[], lines.take context, lines.drop context, o, n, ?_, ?_, rfl⟩
      · rw [List.take_append_drop, List.nil_append]
      · rw [List.take_append_drop]
        exact take_context_ne_nil
  | case3 part rest _ ih =>
      rcases ih with same | ⟨front, left, dropped, o, n, rfl, filled, trimmed⟩
      · exact .inl (by rw [same])
      · exact .inr ⟨part :: front, left, dropped, o, n, rfl, filled,
          by rw [trimmed, List.cons_append]⟩

/-- Kept lines before the first change are left out, and nothing else changes. -/
theorem trimHead_spec (tells : Tells old new olds news parts)
    (starts : StartsAt Change.old old parts) :
    ∃ gap olds' news', olds = gap ++ olds' ∧ news = gap ++ news' ∧
      Tells (old + gap.length) (new + gap.length) olds' news' (trimHead parts) ∧
      StartsAt Change.old (old + gap.length) (trimHead parts) ∧
      (gap = [] ∨ olds' ≠ [] ∧ news' ≠ []) ∧
      (EndsInPlace (old + gap.length) (new + gap.length) olds' news' (trimHead parts) ↔
        EndsInPlace old new olds news parts) := by
  rcases trimHead_eq parts with same | ⟨gap, left, o, n, rest, rfl, filled, trimmed⟩
  · rw [same]
    exact ⟨[], olds, news, rfl, rfl, tells, starts, .inl rfl, Iff.rfl⟩
  · obtain ⟨some, rfl, rfl, olds, news, rfl, rfl, later⟩ := Tells.same_iff.1 tells
    have trimmedTells : Tells (o + gap.length) (n + gap.length) (left ++ olds) (left ++ news)
        (.same left (o + gap.length) (n + gap.length) :: rest) := by
      refine Tells.same_iff.2 ⟨filled some, rfl, rfl, olds, news, rfl, rfl, ?_⟩
      simpa only [List.length_append, Nat.add_assoc] using later
    refine ⟨gap, left ++ olds, left ++ news, List.append_assoc .., List.append_assoc .., ?_⟩
    rw [trimmed]
    refine ⟨trimmedTells, by simp [StartsAt, Change.old], .inr (trimmedTells.filled_of_same []), ?_⟩
    simp only [endsInPlace_iff, List.length_append, Nat.add_assoc]
    refine and_congr (by simp [StartsAt, Change.new]) (and_congr ?_ ?_)
    · exact stopsAt_append_cons [] [] (by simp [Change.old, Change.oldLines, Nat.add_assoc])
    · exact stopsAt_append_cons [] [] (by simp [Change.new, Change.newLines, Nat.add_assoc])

theorem trimTail_spec (tells : Tells old new olds news parts) :
    ∃ olds' news' rest, olds = olds' ++ rest ∧ news = news' ++ rest ∧
      Tells old new olds' news' (trimTail parts) ∧
      (∀ m, StartsAt Change.old m (trimTail parts) ↔ StartsAt Change.old m parts) ∧
      (olds ≠ [] ∧ news ≠ [] → olds' ≠ [] ∧ news' ≠ []) ∧
      (EndsInPlace old new olds' news' (trimTail parts) ↔ EndsInPlace old new olds news parts) := by
  rcases trimTail_eq parts with same | ⟨front, left, rest, o, n, rfl, filled, trimmed⟩
  · rw [same]
    exact ⟨olds, news, [], by simp, by simp, tells, fun _ => Iff.rfl, id, Iff.rfl⟩
  · rw [trimmed]
    obtain ⟨oldStop, newStop⟩ := tells.stops_of_same front
    obtain ⟨olds₁, olds₂, news₁, news₂, rfl, rfl, before, behind⟩ := tells.split
    obtain ⟨some, rfl, rfl, _, _, rfl, rfl, later⟩ := Tells.same_iff.1 behind
    obtain ⟨rfl, rfl⟩ := Tells.nil_iff.1 later
    have trimmedTells := before.append
      (Tells.same_iff.2 ⟨filled some, rfl, rfl, [], [], rfl, rfl, .nil⟩)
    obtain ⟨oldStop', newStop'⟩ := trimmedTells.stops_of_same front
    refine ⟨_, _, rest, ?_, ?_, trimmedTells, fun m => startsAt_append_cons rfl,
      fun _ => trimmedTells.filled_of_same front, ?_⟩
    · simp only [List.append_nil, List.append_assoc]
    · simp only [List.append_nil, List.append_assoc]
    · simp only [endsInPlace_iff, oldStop, newStop, oldStop', newStop', and_true]
      exact startsAt_append_cons rfl

/-- The hunks of a difference lead from one text to the other, and their headers are true if the
first part and the last one are in place. -/
theorem shown_hunks (tells : Tells 0 0 olds news parts) (starts : StartsAt Change.old 0 parts) :
    Shown 0 0 olds news (hunks parts) ∧
      (Patch.AllCounted 0 0 ((hunks parts).map asRead) ↔ EndsInPlace 0 0 olds news parts) := by
  obtain ⟨gap, olds, news, rfl, rfl, tells, starts, held, ends⟩ := trimHead_spec tells starts
  obtain ⟨olds, news, rest, rfl, rfl, tells', starts', held', ends'⟩ := trimTail_spec tells
  have opens := (starts' _).2 starts
  refine ⟨shown_cutHunks [] _ rest tells' opens, ?_⟩
  rw [← ends, ← ends']
  refine counted_cutHunks [] _ tells' opens ?_
  rcases held with rfl | some
  · exact .inl ⟨rfl, rfl⟩
  · exact .inr (held' some)

end Emend.Diff
