import Emend.Proofs.RunSteps

/-! # The rule at which a run stops

Checking a set and running it look at the same rules for the same faults, but the check has
no buffer and the run has another one at every rule. Both stop at the first rule that cannot
be applied, which `FirstFault` singles out without either of them.
-/

namespace Emend

/-- The first rule of a list that cannot be applied, with its place and the reason. -/
inductive FirstFault : (rules : List NamedRule) → (index : Nat) → NamedRule → RuleError → Prop where
  /-- The list starts with it. -/
  | here {faulty rest reason} :
      faulty.rule.validate = .error reason → FirstFault (faulty :: rest) 0 faulty reason
  /-- The list starts with a rule that can be applied, and the rest has it. -/
  | later {named rest index faulty reason} :
      named.rule.validate = .ok () → FirstFault rest index faulty reason →
      FirstFault (named :: rest) (index + 1) faulty reason

namespace FirstFault

variable {rules : List NamedRule} {index : Nat} {faulty : NamedRule} {reason : RuleError}

theorem getElem? (fault : FirstFault rules index faulty reason) : rules[index]? = some faulty := by
  induction fault with
  | here _ => rfl
  | later _ _ ih => simpa using ih

theorem validate_eq (fault : FirstFault rules index faulty reason) :
    faulty.rule.validate = .error reason := by
  induction fault with
  | here invalid => exact invalid
  | later _ _ ih => exact ih

theorem not_valid (fault : FirstFault rules index faulty reason) :
    ¬ ∀ named ∈ rules, named.rule.validate = .ok () := by
  intro valid
  have fine := valid faulty (List.mem_of_getElem? fault.getElem?)
  rw [fault.validate_eq] at fine
  cases fine

theorem exists_or_valid (rules : List NamedRule) :
    (∃ index faulty reason, FirstFault rules index faulty reason) ∨
      ∀ named ∈ rules, named.rule.validate = .ok () := by
  induction rules with
  | nil => exact .inr (by simp)
  | cons named rest ih =>
      cases checked : named.rule.validate with
      | error reason => exact .inl ⟨0, named, reason, .here checked⟩
      | ok _ =>
          rcases ih with ⟨index, faulty, reason, fault⟩ | valid
          · exact .inl ⟨index + 1, faulty, reason, .later checked fault⟩
          · exact .inr (by simpa using ⟨checked, valid⟩)

end FirstFault

namespace RuleSet

theorem validateFrom_eq_error_iff {start : Nat} {rules : List NamedRule}
    {failure : Nat × RuleError} :
    validateFrom start rules = .error failure ↔
      ∃ index faulty reason, FirstFault rules index faulty reason ∧
        failure = (start + index, reason) := by
  induction rules generalizing start with
  | nil =>
      constructor
      · intro checked
        cases checked
      · rintro ⟨_, _, _, fault, _⟩
        cases fault
  | cons named rest ih =>
      have shifted (index : Nat) : start + 1 + index = start + (index + 1) := by omega
      cases checked : named.rule.validate with
      | error reason =>
          simp only [validateFrom, checked]
          constructor
          · intro failed
            cases failed
            exact ⟨0, named, reason, .here checked, rfl⟩
          · rintro ⟨_, _, _, fault, rfl⟩
            cases fault with
            | here invalid => cases checked.symm.trans invalid; rfl
            | later valid _ => cases checked.symm.trans valid
      | ok _ =>
          simp only [validateFrom, checked, ih, shifted]
          constructor
          · rintro ⟨index, faulty, reason, fault, rfl⟩
            exact ⟨index + 1, faulty, reason, .later checked fault, rfl⟩
          · rintro ⟨_, _, _, fault, rfl⟩
            cases fault with
            | here invalid => cases checked.symm.trans invalid
            | later _ fault => exact ⟨_, _, _, fault, rfl⟩

theorem validate_eq_error_iff {set : RuleSet} {index : Nat} {reason : RuleError} :
    set.validate = .error (index, reason) ↔
      ∃ faulty, FirstFault set.rules index faulty reason := by
  rw [validate, validateFrom_eq_error_iff]
  constructor
  · rintro ⟨_, faulty, _, fault, same⟩
    rw [Nat.zero_add] at same
    cases same
    exact ⟨faulty, fault⟩
  · rintro ⟨faulty, fault⟩
    exact ⟨index, faulty, reason, fault, by rw [Nat.zero_add]⟩

theorem validate_eq_ok_iff {set : RuleSet} :
    set.validate = .ok () ↔ ∀ named ∈ set.rules, named.rule.validate = .ok () := by
  constructor
  · intro checked
    rcases FirstFault.exists_or_valid set.rules with ⟨index, faulty, reason, fault⟩ | valid
    · rw [validate_eq_error_iff.2 ⟨faulty, fault⟩] at checked
      cases checked
    · exact valid
  · intro valid
    cases checked : set.validate with
    | ok _ => rfl
    | error failure =>
        obtain ⟨faulty, fault⟩ := validate_eq_error_iff.1 checked
        exact absurd valid fault.not_valid

end RuleSet

namespace Run

variable {hints : Bool} {buffer : String} {rules : List NamedRule} {e : PatchError}

/-- A run stops at the first fault, whatever buffers it has on the way there. -/
theorem applyFrom_eq_error_iff {start : Nat} :
    applyFrom hints start buffer rules = .error e ↔
      ∃ index faulty reason, FirstFault rules index faulty reason ∧
        e = .rule (start + index) faulty.id reason := by
  -- The buffer is a general one, as every rule hands another one on to the next.
  induction rules generalizing start buffer with
  | nil =>
      constructor
      · intro ran
        cases ran
      · rintro ⟨_, _, _, fault, _⟩
        cases fault
  | cons named rest ih =>
      have shifted (index : Nat) : start + 1 + index = start + (index + 1) := by omega
      simp only [applyFrom_cons_eq_error_iff, ih, shifted]
      constructor
      · rintro (⟨reason, tried, rfl⟩ | ⟨application, tried, index, faulty, reason, fault, rfl⟩)
        · exact ⟨0, named, reason, .here (Rule.apply_eq_error_iff.1 tried), rfl⟩
        · have valid := (Rule.validate_eq_ok_iff buffer).2 ⟨application, tried⟩
          exact ⟨index + 1, faulty, reason, .later valid fault, rfl⟩
      · rintro ⟨_, _, _, fault, rfl⟩
        cases fault with
        | here invalid => exact .inl ⟨_, Rule.apply_eq_error_iff.2 invalid, rfl⟩
        | later valid fault =>
            obtain ⟨application, tried⟩ := (Rule.validate_eq_ok_iff buffer).1 valid
            exact .inr ⟨application, tried, _, _, _, fault, rfl⟩

theorem apply_eq_error_iff :
    apply hints buffer rules = .error e ↔
      ∃ index faulty reason, FirstFault rules index faulty reason ∧
        e = .rule index faulty.id reason := by
  simp only [apply, applyFrom_eq_error_iff, Nat.zero_add]

theorem exists_apply_eq_ok (hints : Bool) (buffer : String)
    (valid : ∀ named ∈ rules, named.rule.validate = .ok ()) :
    ∃ applied, apply hints buffer rules = .ok applied := by
  cases ran : apply hints buffer rules with
  | ok applied => exact ⟨applied, rfl⟩
  | error e =>
      obtain ⟨_, _, _, fault, _⟩ := apply_eq_error_iff.1 ran
      exact absurd valid fault.not_valid

/-- A run stops exactly if the check of its rules fails, at the same rule and for the same
reason. Neither the buffer that the run starts with nor what rules have made of it by then
has a say in this, and a set that passes the check can be run on every buffer. -/
theorem stops_exactly_as_validated (set : RuleSet) (hints : Bool) (buffer : String) :
    (∀ index id reason, apply hints buffer set.rules = .error (.rule index id reason) ↔
      set.validate = .error (index, reason) ∧
        ∃ rule, set.rules[index]? = some ⟨id, rule⟩) ∧
    ((∃ e, apply hints buffer set.rules = .error e) ↔
      ∃ failure, set.validate = .error failure) ∧
    (∀ path reason, apply hints buffer set.rules ≠ .error (.file path reason)) ∧
    (∀ others other e, apply hints buffer set.rules = .error e ↔
      apply others other set.rules = .error e) ∧
    (set.validate = .ok () ↔ ∃ applied, apply hints buffer set.rules = .ok applied) := by
  refine ⟨?_, ?_, ?_, ?_, ?_⟩
  · intro index id reason
    rw [apply_eq_error_iff, RuleSet.validate_eq_error_iff]
    constructor
    · rintro ⟨_, faulty, _, fault, same⟩
      cases same
      exact ⟨⟨faulty, fault⟩, faulty.rule, fault.getElem?⟩
    · rintro ⟨⟨faulty, fault⟩, rule, placed⟩
      have same : (⟨id, rule⟩ : NamedRule) = faulty :=
        Option.some.inj (placed.symm.trans fault.getElem?)
      subst same
      exact ⟨index, _, reason, fault, rfl⟩
  · constructor
    · rintro ⟨e, stopped⟩
      obtain ⟨index, faulty, reason, fault, rfl⟩ := apply_eq_error_iff.1 stopped
      exact ⟨(index, reason), RuleSet.validate_eq_error_iff.2 ⟨faulty, fault⟩⟩
    · rintro ⟨⟨index, reason⟩, failed⟩
      obtain ⟨faulty, fault⟩ := RuleSet.validate_eq_error_iff.1 failed
      exact ⟨_, apply_eq_error_iff.2 ⟨index, faulty, reason, fault, rfl⟩⟩
  · intro path reason stopped
    obtain ⟨_, _, _, _, same⟩ := apply_eq_error_iff.1 stopped
    cases same
  · intro others other e
    rw [apply_eq_error_iff, apply_eq_error_iff]
  · constructor
    · intro checked
      exact exists_apply_eq_ok hints buffer (RuleSet.validate_eq_ok_iff.1 checked)
    · rintro ⟨applied, ran⟩
      cases checked : set.validate with
      | ok _ => rfl
      | error failure =>
          obtain ⟨faulty, fault⟩ := RuleSet.validate_eq_error_iff.1 checked
          rw [apply_eq_error_iff.2 ⟨_, faulty, _, fault, rfl⟩] at ran
          cases ran

end Run

end Emend
