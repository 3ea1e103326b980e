import Emend.Proofs.RunSteps

/-! # Runs of lists that are put together

A run of one list and then another is a run of the first and then, on the buffer that it left,
a run of the second. Places are counted from the first rule of all, so what the second run says
about places moves by the length of the first list.
-/

namespace Emend

def Record.movedBy (n : Nat) (record : Record) : Record :=
  { record with index := record.index + n }

def PatchError.movedBy (n : Nat) : PatchError → PatchError
  | .file path reason => .file path reason
  | .rule index id reason => .rule (index + n) id reason

namespace Applied

def movedBy (n : Nat) (applied : Applied) : Applied :=
  { applied with records := applied.records.map (·.movedBy n) }

/-- Two runs as one: the buffer of the second with the records of both. -/
def followedBy (first second : Applied) : Applied :=
  ⟨second.buffer, first.records ++ second.records⟩

@[simp]
theorem movedBy_buffer (n : Nat) (applied : Applied) : (applied.movedBy n).buffer = applied.buffer :=
  rfl

@[simp]
theorem movedBy_records (n : Nat) (applied : Applied) :
    (applied.movedBy n).records = applied.records.map (·.movedBy n) :=
  rfl

@[simp]
theorem followedBy_buffer (first second : Applied) :
    (first.followedBy second).buffer = second.buffer :=
  rfl

@[simp]
theorem followedBy_records (first second : Applied) :
    (first.followedBy second).records = first.records ++ second.records :=
  rfl

end Applied

namespace Run

/-- What a run comes to if its rules stand `n` places further on. -/
def movedBy (n : Nat) : Except PatchError Applied → Except PatchError Applied
  | .error e => .error (e.movedBy n)
  | .ok applied => .ok (applied.movedBy n)

variable {hints : Bool} {buffer : String} {applied : Applied} {rules : List NamedRule}

/-- Where a list starts has no say in what its rules do. -/
theorem applyFrom_add (hints : Bool) (index n : Nat) (buffer : String) (rules : List NamedRule) :
    applyFrom hints (index + n) buffer rules = movedBy n (applyFrom hints index buffer rules) := by
  induction rules generalizing index buffer with
  | nil => rfl
  | cons named rest ih =>
      cases tried : named.rule.apply buffer with
      | error reason =>
          rw [applyFrom_cons_of_error tried, applyFrom_cons_of_error tried]
          rfl
      | ok application =>
          have moved : index + n + 1 = index + 1 + n := by omega
          rw [applyFrom_cons_of_ok tried, applyFrom_cons_of_ok tried, moved, ih]
          cases applyFrom hints (index + 1) application.buffer rest <;> rfl

theorem applyFrom_append (hints : Bool) (index : Nat) (buffer : String)
    (xs ys : List NamedRule) :
    applyFrom hints index buffer (xs ++ ys) =
      (applyFrom hints index buffer xs).bind fun first =>
        (applyFrom hints (index + xs.length) first.buffer ys).map first.followedBy := by
  induction xs generalizing index buffer with
  | nil =>
      simp only [List.nil_append, applyFrom, Except.bind, List.length_nil, Nat.add_zero]
      cases applyFrom hints index buffer ys <;> rfl
  | cons named rest ih =>
      cases tried : named.rule.apply buffer with
      | error reason =>
          rw [List.cons_append, applyFrom_cons_of_error tried, applyFrom_cons_of_error tried]
          rfl
      | ok application =>
          have behind : index + (rest.length + 1) = index + 1 + rest.length := by omega
          rw [List.cons_append, applyFrom_cons_of_ok tried, applyFrom_cons_of_ok tried, ih,
            List.length_cons, behind]
          cases applyFrom hints (index + 1) application.buffer rest with
          | error e => rfl
          | ok first =>
              simp only [Except.bind, Except.map]
              cases applyFrom hints (index + 1 + rest.length) first.buffer ys <;> rfl

theorem apply_append_eq (hints : Bool) (buffer : String) (xs ys : List NamedRule) :
    apply hints buffer (xs ++ ys) =
      (apply hints buffer xs).bind fun first =>
        (movedBy xs.length (apply hints first.buffer ys)).map first.followedBy := by
  simp only [apply, applyFrom_append, applyFrom_add hints 0 xs.length]

theorem apply_singleton_eq_ok_iff {named : NamedRule} :
    apply hints buffer [named] = .ok applied ↔
      ∃ application, named.rule.apply buffer = .ok application ∧
        applied = ⟨application.buffer, [recordOf hints 0 buffer named application]⟩ := by
  rw [apply, applyFrom_cons_eq_ok_iff]
  simp [applyFrom]

theorem apply_append_eq_ok_iff {xs ys : List NamedRule} :
    apply hints buffer (xs ++ ys) = .ok applied ↔
      ∃ first second, apply hints buffer xs = .ok first ∧ apply hints first.buffer ys = .ok second ∧
        applied = first.followedBy (second.movedBy xs.length) := by
  rw [apply_append_eq]
  cases ran : apply hints buffer xs with
  | error e => simp [Except.bind]
  | ok first =>
      cases later : apply hints first.buffer ys <;>
        simp [Except.bind, Except.map, movedBy, later, eq_comm]

/-- The record of a rule comes from running it alone on what the rules before it left. -/
theorem exists_alone_of_apply (ran : apply hints buffer rules = .ok applied) {place : Nat}
    {named : NamedRule} (here : rules[place]? = some named) :
    ∃ before after alone, apply hints buffer (rules.take place) = .ok before ∧
      apply hints before.buffer [named] = .ok ⟨after, [alone]⟩ ∧
      alone.hint = hint? hints before.buffer named.rule alone.outcome ∧
      applied.records[place]? = some (alone.movedBy place) := by
  obtain ⟨inside, rfl⟩ := List.getElem?_eq_some_iff.1 here
  have cut : rules = rules.take place ++ ([rules[place]] ++ rules.drop (place + 1)) := by simp
  have size : (rules.take place).length = place := by simp; omega
  rw [cut] at ran
  obtain ⟨before, behind, ranBefore, ranBehind, rfl⟩ := apply_append_eq_ok_iff.1 ran
  obtain ⟨single, later, ranSingle, _, rfl⟩ := apply_append_eq_ok_iff.1 ranBehind
  obtain ⟨application, tried, rfl⟩ := apply_singleton_eq_ok_iff.1 ranSingle
  have placed : before.records.length = place := (records_length_of_applyFrom ranBefore).trans size
  refine ⟨before, _, _, ranBefore, ranSingle, rfl, ?_⟩
  simp [placed, size]

/-- A list of rules can be cut anywhere. The whole succeeds if both parts do, the second on the
buffer of the first, and it fails as the part does that fails. So a record says what its rule
does on the buffer it met, and every rule has one. -/
theorem apply_append (hints : Bool) (buffer : String) :
    (∀ xs ys applied, apply hints buffer (xs ++ ys) = .ok applied ↔
      ∃ first second, apply hints buffer xs = .ok first ∧
        apply hints first.buffer ys = .ok second ∧ applied.buffer = second.buffer ∧
        applied.records = first.records ++ second.records.map (·.movedBy xs.length)) ∧
    (∀ xs ys e, apply hints buffer xs = .error e → apply hints buffer (xs ++ ys) = .error e) ∧
    (∀ xs ys first e, apply hints buffer xs = .ok first → apply hints first.buffer ys = .error e →
      apply hints buffer (xs ++ ys) = .error (e.movedBy xs.length)) ∧
    (∀ rules applied, apply hints buffer rules = .ok applied →
      applied.records.length = rules.length ∧
      ∀ place named, rules[place]? = some named → ∃ before after alone,
        apply hints buffer (rules.take place) = .ok before ∧
        apply hints before.buffer [named] = .ok ⟨after, [alone]⟩ ∧
        alone.hint = hint? hints before.buffer named.rule alone.outcome ∧
        applied.records[place]? = some (alone.movedBy place)) := by
  refine ⟨?_, ?_, ?_, ?_⟩
  · rintro xs ys ⟨behind, records⟩
    simp only [apply_append_eq_ok_iff, Applied.followedBy, Applied.movedBy, Applied.mk.injEq]
  · intro xs ys e failed
    rw [apply_append_eq, failed]
    rfl
  · intro xs ys first e ran failed
    rw [apply_append_eq, ran]
    simp only [Except.bind, failed]
    rfl
  · intro rules applied ran
    exact ⟨records_length_of_applyFrom ran, fun _ _ here => exists_alone_of_apply ran here⟩

end Run

end Emend
