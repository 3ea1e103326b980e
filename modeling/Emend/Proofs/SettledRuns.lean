import Emend.Proofs.Replacements

/-! # Runs that settle

A second run of the same rules on what the first has left finds nothing if each target has been
cleared: one rule replaces every occurrence of it, and neither what this rule writes nor any rule
behind it can bring it back. It is enough that a part of the target has been cleared.
-/

namespace Emend

open Text

/-- What an exact rule looks for, what it writes, and how often. -/
structure Exact where
  old : String
  new : String
  mode : ReplaceMode

namespace Exact

def apply (exact : Exact) (buffer : String) : Application :=
  Rule.replaceText exact.mode exact.old exact.new buffer

/-- A rule does on every buffer what the exact rule does. It need not be one. -/
def DoneBy (exact : Exact) (named : NamedRule) : Prop :=
  ∀ buffer, named.rule.apply buffer = .ok (exact.apply buffer)

/-- The buffer behind exact rules that are applied one after the other. -/
def behind (exacts : List Exact) (buffer : String) : String :=
  exacts.foldl (fun buffer exact => (exact.apply buffer).buffer) buffer

/-- A rule that cannot touch a target, neither where it looks nor by what it writes. -/
def Spares (exact : Exact) (target : String) : Prop :=
  Apart target.toList exact.old.toList ∧ Apart target.toList exact.new.toList

/-- One of several rules clears a target for good. -/
inductive Clears (target : String) : List Exact → Prop where
  /-- The first replaces every occurrence, and the target does not come back. -/
  | here {new : String} {rest : List Exact} (own : Apart target.toList new.toList)
      (spared : ∀ exact ∈ rest, exact.Spares target) : Clears target (⟨target, new, .all⟩ :: rest)
  | later {exact : Exact} {rest : List Exact} (clears : Clears target rest) :
      Clears target (exact :: rest)

variable {exact : Exact} {exacts : List Exact} {target buffer : String}

theorem occurrences_apply_of_spares (spares : exact.Spares target) (filled : exact.old.toList ≠ [])
    (buffer : String) :
    occurrences target.toList (exact.apply buffer).buffer.toList =
      occurrences target.toList buffer.toList := by
  rw [apply, Rule.replaceText_eq filled]
  simp only [String.toList_ofList]
  exact occurrences_replaceFirst spares.1 spares.2 _ _

theorem occurrences_behind_of_spares (spared : ∀ exact ∈ exacts, exact.Spares target)
    (buffer : String) :
    occurrences target.toList (behind exacts buffer).toList =
      occurrences target.toList buffer.toList := by
  induction exacts generalizing buffer with
  | nil => rfl
  | cons exact rest ih =>
      have spares := spared exact List.mem_cons_self
      have later := ih (fun other member => spared other (List.mem_cons_of_mem _ member))
      rw [behind, List.foldl_cons]
      exact (later _).trans (occurrences_apply_of_spares spares spares.1.symm.ne_nil buffer)

theorem Clears.absent (clears : Clears target exacts) (buffer : String) :
    ¬ target.toList <:+: (behind exacts buffer).toList := by
  induction clears generalizing buffer with
  | @here new rest own spared =>
      have gone : occurrences target.toList
          ((Exact.mk target new .all).apply buffer).buffer.toList = 0 := by
        rw [apply, Rule.replaceText_eq own.ne_nil]
        simp only [String.toList_ofList, ReplaceMode.quota]
        exact occurrences_replaceFirst_self own _
      rw [← occurrences_eq_zero_iff own.ne_nil, behind, List.foldl_cons]
      exact (occurrences_behind_of_spares spared _).trans gone
  | later _ ih => exact ih _

theorem apply_of_absent (absent : ¬ exact.old.toList <:+: buffer.toList) :
    exact.apply buffer = .unchanged buffer :=
  Rule.replaceText_of_absent absent

end Exact

namespace Run

variable {exacts : List Exact} {rules : List NamedRule}

theorem exists_applyFrom_of_doneBy (done : List.Forall₂ Exact.DoneBy exacts rules) (hints : Bool)
    (index : Nat) (buffer : String) :
    ∃ applied, applyFrom hints index buffer rules = .ok applied ∧
      applied.buffer = Exact.behind exacts buffer := by
  induction done generalizing index buffer with
  | nil => exact ⟨⟨buffer, []⟩, rfl, rfl⟩
  | @cons exact named exacts rules step _ ih =>
      obtain ⟨later, continued, ended⟩ := ih (index + 1) (exact.apply buffer).buffer
      exact ⟨_, applyFrom_cons_eq_ok_iff.2 ⟨_, later, step buffer, continued, rfl⟩, ended⟩

theorem exists_applyFrom_of_absent (done : List.Forall₂ Exact.DoneBy exacts rules) (hints : Bool)
    (index : Nat) {buffer : String}
    (absent : ∀ exact ∈ exacts, ¬ exact.old.toList <:+: buffer.toList) :
    ∃ applied, applyFrom hints index buffer rules = .ok applied ∧ applied.buffer = buffer ∧
      applied.records.map (·.outcome) = rules.map fun _ => .noMatch := by
  induction done generalizing index with
  | nil => exact ⟨⟨buffer, []⟩, rfl, rfl, rfl⟩
  | @cons exact named exacts rules step _ ih =>
      have skipped := step buffer
      rw [Exact.apply_of_absent (absent exact List.mem_cons_self)] at skipped
      obtain ⟨later, continued, kept, none⟩ :=
        ih (index + 1) fun other member => absent other (List.mem_cons_of_mem _ member)
      refine ⟨_, applyFrom_cons_eq_ok_iff.2 ⟨_, later, skipped, continued, rfl⟩, kept, ?_⟩
      simp [recordOf, Application.unchanged, none]

/-- If every target has a part that the rules clear, a second run finds nothing. -/
theorem exists_apply_twice (done : List.Forall₂ Exact.DoneBy exacts rules)
    (cleared : ∀ exact ∈ exacts, ∃ part : String, part.toList <:+: exact.old.toList ∧
      Exact.Clears part exacts) (hints others : Bool) (buffer : String) :
    ∃ first second, apply hints buffer rules = .ok first ∧
      apply others first.buffer rules = .ok second ∧ second.buffer = first.buffer ∧
      second.records.map (·.outcome) = rules.map fun _ => .noMatch := by
  obtain ⟨first, ran, left⟩ := exists_applyFrom_of_doneBy done hints 0 buffer
  have absent : ∀ exact ∈ exacts, ¬ exact.old.toList <:+: first.buffer.toList := by
    intro exact member inside
    obtain ⟨part, within, clears⟩ := cleared exact member
    rw [left] at inside
    exact clears.absent buffer (within.trans inside)
  obtain ⟨second, again, kept, none⟩ := exists_applyFrom_of_absent done others 0 absent
  exact ⟨first, second, ran, again, kept, none⟩

end Run

end Emend
