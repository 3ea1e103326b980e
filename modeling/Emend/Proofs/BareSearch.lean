import Emend.Regex.Search

/-! # Searching without recording

Where only the places of matches are asked for, nothing needs to be recorded on the way. The bare
program goes on wherever the full one records a place. Both take the same ways, so they find
matches of the same length at the same places.
-/

namespace Emend.Regex

def Thread.bare (thread : Thread) : Thread := ⟨thread.pc, []⟩

namespace Program

variable {p : Program}

theorem getElem?_bare (p : Program) (pc : Nat) : p.bare[pc]? = p[pc]?.map Inst.bare :=
  Array.getElem?_map

theorem size_bare (p : Program) : p.bare.size = p.size :=
  Array.size_map

theorem branching_bare (p : Program) : p.bare.branching = p.branching := by
  unfold branching bare
  rw [Array.foldl_map]
  congr 1
  funext n inst
  cases inst <;> rfl

theorem follow_bare (p : Program) (point : Point) (pos fuel : Nat) (threads : List Thread)
    (seen : Array Bool) :
    p.bare.follow point pos fuel (threads.map Thread.bare) seen =
      (p.follow point pos fuel threads seen).map Thread.bare := by
  induction fuel generalizing threads seen with
  | zero => rfl
  | succ fuel ih =>
      cases threads with
      | nil => rfl
      | cons thread rest =>
          obtain ⟨pc, slots⟩ := thread
          rw [List.map_cons, Thread.bare]
          simp only [follow, getElem?_bare]
          split
          · exact ih rest seen
          · cases here : p[pc]? with
            | none => exact ih rest _
            | some inst =>
                cases inst with
                | split targets =>
                    have same : targets.map (fun pc => (⟨pc, []⟩ : Thread)) ++ rest.map Thread.bare =
                        (targets.map (fun pc => (⟨pc, slots⟩ : Thread)) ++ rest).map Thread.bare := by
                      simp [Thread.bare, Function.comp_def]
                    simp only [Option.map_some, Inst.bare, same, ih]
                | look look next =>
                    simp only [Option.map_some, Inst.bare]
                    split
                    · exact ih (⟨next, slots⟩ :: rest) _
                    · exact ih rest _
                | save slot next => exact ih (⟨next, (slot, pos) :: slots⟩ :: rest) _
                | char c next => simp only [Option.map_some, Inst.bare, List.map_cons, ih, Thread.bare]
                | oneOf set next =>
                    simp only [Option.map_some, Inst.bare, List.map_cons, ih, Thread.bare]
                | accept => simp only [Option.map_some, Inst.bare, List.map_cons, ih, Thread.bare]

theorem reach_bare (p : Program) (point : Point) (pos : Nat) (threads : List Thread) :
    p.bare.reach point pos (threads.map Thread.bare) =
      (p.reach point pos threads).map Thread.bare := by
  simp only [reach, branching_bare, size_bare, List.length_map, follow_bare]

theorem advance_bare (p : Program) (c : Char) (threads : List Thread) :
    p.bare.advance c (threads.map Thread.bare) = (p.advance c threads).map Thread.bare := by
  induction threads with
  | nil => rfl
  | cons thread rest ih =>
      obtain ⟨pc, slots⟩ := thread
      rw [List.map_cons, Thread.bare]
      simp only [advance, getElem?_bare]
      cases here : p[pc]? with
      | none => exact ih
      | some inst =>
          cases inst with
          | char d next =>
              simp only [Option.map_some, Inst.bare]
              split
              · rw [List.map_cons, ih, Thread.bare]
              · exact ih
          | oneOf set next =>
              simp only [Option.map_some, Inst.bare]
              split
              · rw [List.map_cons, ih, Thread.bare]
              · exact ih
          | split targets => exact ih
          | look look next => exact ih
          | save slot next => exact ih
          | accept => exact ih

theorem cutAtAccept_bare (p : Program) (threads : List Thread) :
    p.bare.cutAtAccept (threads.map Thread.bare) =
      ((p.cutAtAccept threads).1.map Thread.bare, (p.cutAtAccept threads).2.map fun _ => []) := by
  induction threads with
  | nil => rfl
  | cons thread rest ih =>
      obtain ⟨pc, slots⟩ := thread
      rw [List.map_cons, Thread.bare]
      simp only [cutAtAccept, getElem?_bare]
      cases here : p[pc]? with
      | none => simp only [Option.map_none, ih, List.map_cons, Thread.bare]
      | some inst => cases inst <;> simp [Inst.bare, ih, Thread.bare]

/-- What is left of the best match so far when nothing is recorded. -/
def unrecorded (best : Option (Nat × Slots)) : Option (Nat × Slots) :=
  best.map fun (length, _) => (length, [])

theorem settle_bare (p : Program) (best : Option (Nat × Slots)) (point : Point) (pos : Nat)
    (threads : List Thread) :
    p.bare.settle (unrecorded best) point pos (threads.map Thread.bare) =
      ((p.settle best point pos threads).1.map Thread.bare,
        unrecorded (p.settle best point pos threads).2) := by
  simp only [settle, reach_bare, cutAtAccept_bare]
  cases (p.cutAtAccept (p.reach point pos threads)).2 <;> rfl

theorem run_bare (p : Program) (best : Option (Nat × Slots)) (before : Option Char) (pos : Nat)
    (threads : List Thread) (text : List Char) :
    p.bare.run (unrecorded best) before pos (threads.map Thread.bare) text =
      unrecorded (p.run best before pos threads text) := by
  induction text generalizing best before pos threads with
  | nil => simp only [run, settle_bare]
  | cons c rest ih =>
      simp only [run, settle_bare, advance_bare]
      cases ahead : p.advance c (p.settle best ⟨before, some c⟩ pos threads).1 with
      | nil => rfl
      | cons thread more => exact ih _ _ _ (thread :: more)

/-- The bare program finds a match where the full one does, of the same length. -/
theorem matchAt_bare (p : Program) (before : Option Char) (text : List Char) :
    p.bare.matchAt before text = unrecorded (p.matchAt before text) :=
  p.run_bare none before 0 [⟨0, []⟩] text

end Program

end Emend.Regex
