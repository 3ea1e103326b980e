import Emend.Run

/-! # What a run does at each rule

A run either stops at its first rule or leaves a record of it and goes on with the buffer
that the rule made. Everything that is said of runs is read off these two steps.
-/

namespace Emend

theorem eq_ok_of_toOption {ε α : Type} {result : Except ε α} {value : α}
    (some : result.toOption = .some value) : result = .ok value := by
  cases result <;> simp_all [Except.toOption]

@[simp]
theorem Outcome.isApplied_eq_false_iff {outcome : Outcome} :
    outcome.isApplied = false ↔ outcome = .noMatch := by
  cases outcome <;> simp [isApplied]

namespace Rule

variable {rule : Rule} {buffer : String}

/-- Whether a rule can be applied does not depend on the buffer, and neither does the
reason why it cannot. -/
theorem apply_eq_error_iff {reason : RuleError} :
    rule.apply buffer = .error reason ↔ rule.validate = .error reason := by
  cases rule with
  | literal old new mode =>
      simp only [apply, validate]
      split <;> simp
  | block old new =>
      simp only [apply, validate]
      split <;> simp
  | regex pattern template flags =>
      simp only [apply, validate]
      cases compilePattern pattern flags <;> simp [Except.map, bind, Except.bind, pure, Except.pure]

theorem validate_eq_ok_iff (buffer : String) :
    rule.validate = .ok () ↔ ∃ application, rule.apply buffer = .ok application := by
  cases applied : rule.apply buffer with
  | error reason => simp [apply_eq_error_iff.1 applied]
  | ok application =>
      cases checked : rule.validate with
      | error reason => simp [apply_eq_error_iff.2 checked] at applied
      | ok checked => simp

theorem replaceText_of_noMatch {mode : ReplaceMode} {old new : String}
    (none : (replaceText mode old new buffer).outcome = .noMatch) :
    replaceText mode old new buffer = .unchanged buffer := by
  unfold replaceText at none ⊢
  split at none
  · rfl
  · cases mode <;> simp at none

theorem replaceMatches_of_noMatch {regex : Regex} {template : String}
    (none : (replaceMatches regex template buffer).outcome = .noMatch) :
    replaceMatches regex template buffer = .unchanged buffer := by
  simp only [replaceMatches] at none ⊢
  split at none
  · rfl
  · simp at none

theorem eq_unchanged_of_noMatch {application : Application}
    (applied : rule.apply buffer = .ok application) (none : application.outcome = .noMatch) :
    application = .unchanged buffer := by
  cases rule with
  | literal old new mode =>
      simp only [apply] at applied
      split at applied <;> cases applied
      exact replaceText_of_noMatch none
  | block old new =>
      simp only [apply] at applied
      split at applied <;> cases applied
      exact replaceText_of_noMatch none
  | regex pattern template flags =>
      simp only [apply] at applied
      cases compiled : compilePattern pattern flags with
      | error reason => simp [compiled, bind, Except.bind] at applied
      | ok regex =>
          rw [compiled] at applied
          cases applied
          exact replaceMatches_of_noMatch none

end Rule

namespace Run

def recordOf (hints : Bool) (index : Nat) (buffer : String) (named : NamedRule)
    (application : Application) : Record where
  index := index
  id := named.id
  kind := named.rule.kind
  outcome := application.outcome
  hint := hint? hints buffer named.rule application.outcome

variable {hints : Bool} {index : Nat} {buffer : String} {named : NamedRule}
  {rest rules : List NamedRule} {applied : Applied}

theorem applyFrom_cons_of_error {reason : RuleError}
    (faulty : named.rule.apply buffer = .error reason) :
    applyFrom hints index buffer (named :: rest) = .error (.rule index named.id reason) := by
  simp only [applyFrom, faulty]

theorem applyFrom_cons_of_ok {application : Application}
    (fine : named.rule.apply buffer = .ok application) :
    applyFrom hints index buffer (named :: rest) =
      (applyFrom hints (index + 1) application.buffer rest).map fun applied =>
        ⟨applied.buffer, recordOf hints index buffer named application :: applied.records⟩ := by
  simp only [applyFrom, fine, recordOf]

theorem applyFrom_cons_eq_error_iff {e : PatchError} :
    applyFrom hints index buffer (named :: rest) = .error e ↔
      (∃ reason, named.rule.apply buffer = .error reason ∧ e = .rule index named.id reason) ∨
      ∃ application, named.rule.apply buffer = .ok application ∧
        applyFrom hints (index + 1) application.buffer rest = .error e := by
  cases tried : named.rule.apply buffer with
  | error reason => simp [applyFrom_cons_of_error tried, eq_comm]
  | ok application =>
      rw [applyFrom_cons_of_ok tried]
      cases later : applyFrom hints (index + 1) application.buffer rest <;>
        simp [Except.map, later]

/-- A run that does not stop leaves the record of its first rule and goes on with the
buffer of that rule. -/
theorem applyFrom_cons_eq_ok_iff :
    applyFrom hints index buffer (named :: rest) = .ok applied ↔
      ∃ application later, named.rule.apply buffer = .ok application ∧
        applyFrom hints (index + 1) application.buffer rest = .ok later ∧
        applied =
          ⟨later.buffer, recordOf hints index buffer named application :: later.records⟩ := by
  cases tried : named.rule.apply buffer with
  | error reason => simp [applyFrom_cons_of_error tried]
  | ok application =>
      rw [applyFrom_cons_of_ok tried]
      cases later : applyFrom hints (index + 1) application.buffer rest <;>
        simp [Except.map, later, eq_comm]

theorem records_length_of_applyFrom
    (ran : applyFrom hints index buffer rules = .ok applied) :
    applied.records.length = rules.length := by
  induction rules generalizing index buffer applied with
  | nil =>
      cases ran
      rfl
  | cons named rest ih =>
      obtain ⟨application, later, _, continued, rfl⟩ := applyFrom_cons_eq_ok_iff.1 ran
      simp only [List.length_cons, ih continued]

theorem buffer_of_applyFrom_of_noMatch
    (ran : applyFrom hints index buffer rules = .ok applied)
    (none : ∀ record ∈ applied.records, record.outcome = .noMatch) :
    applied.buffer = buffer := by
  induction rules generalizing index buffer applied with
  | nil =>
      cases ran
      rfl
  | cons named rest ih =>
      obtain ⟨application, later, tried, continued, rfl⟩ := applyFrom_cons_eq_ok_iff.1 ran
      have skipped : application = .unchanged buffer :=
        Rule.eq_unchanged_of_noMatch tried (none _ List.mem_cons_self)
      subst skipped
      have kept : later.buffer = buffer :=
        ih continued fun record member => none record (List.mem_cons_of_mem _ member)
      exact kept

/-- A record as a run without hints leaves it. -/
def withoutHint (record : Record) : Record := { record with hint := none }

theorem recordOf_withoutHints (hints : Bool) (application : Application) :
    recordOf false index buffer named application =
      withoutHint (recordOf hints index buffer named application) := by
  unfold recordOf withoutHint hint?
  cases application.outcome <;> cases named.rule.expectedText? <;> rfl

theorem applyFrom_withoutHints (hints : Bool) (index : Nat) (buffer : String)
    (rules : List NamedRule) :
    applyFrom false index buffer rules =
      (applyFrom hints index buffer rules).map fun applied =>
        { applied with records := applied.records.map withoutHint } := by
  induction rules generalizing index buffer with
  | nil => rfl
  | cons named rest ih =>
      cases tried : named.rule.apply buffer with
      | error reason =>
          rw [applyFrom_cons_of_error tried, applyFrom_cons_of_error tried]
          rfl
      | ok application =>
          rw [applyFrom_cons_of_ok tried, applyFrom_cons_of_ok tried, ih]
          cases applyFrom hints (index + 1) application.buffer rest with
          | error e => rfl
          | ok later => simp [Except.map, recordOf_withoutHints hints]

end Run

end Emend
