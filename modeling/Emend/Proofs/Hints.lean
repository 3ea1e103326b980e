import Emend.Proofs.RunComposition
import Mathlib.Data.List.Forall2

/-! # What hints say and what they leave alone

A run with hints is a run without them, but for the hints. A record has a hint if its rule looked
for an exact text that the buffer of its turn has not, and has a near miss of.
-/

namespace Emend

theorem Rule.exact_of_expectedText? {rule : Rule} {expected : String}
    (text : rule.expectedText? = some expected) : rule.kind = .literal ∨ rule.kind = .block := by
  cases rule with
  | literal old new mode => exact .inl rfl
  | block old new => exact .inr rfl
  | regex pattern template flags => cases text

namespace Run

variable {hints : Bool} {buffer : String} {applied : Applied} {rules : List NamedRule}

theorem hint?_eq_some_iff {rule : Rule} {outcome : Outcome} {hint : NearMiss Binary64} :
    hint? true buffer rule outcome = some hint ↔
      outcome = .noMatch ∧ ∃ expected, rule.expectedText? = some expected ∧
        NearMiss.find? NearMiss.leastScore buffer expected = some hint := by
  cases outcome <;> cases text : rule.expectedText? <;> simp [hint?, text]

/-- A rule meets the buffer that the rules before it have left, and its record says what it did
there. -/
theorem exists_recordOf_of_apply (ran : apply hints buffer rules = .ok applied) {place : Nat}
    {named : NamedRule} (here : rules[place]? = some named) :
    ∃ before application, apply hints buffer (rules.take place) = .ok before ∧
      named.rule.apply before.buffer = .ok application ∧
      applied.records[place]? = some (recordOf hints place before.buffer named application) := by
  obtain ⟨before, after, alone, ranBefore, ranAlone, _, recorded⟩ := exists_alone_of_apply ran here
  obtain ⟨application, tried, shape⟩ := apply_singleton_eq_ok_iff.1 ranAlone
  obtain rfl : alone = recordOf hints 0 before.buffer named application := by
    simpa using congrArg Applied.records shape
  refine ⟨before, application, ranBefore, tried, ?_⟩
  simpa [recordOf, Record.movedBy] using recorded

theorem exists_turn_of_record (ran : apply hints buffer rules = .ok applied) {record : Record}
    (member : record ∈ applied.records) :
    ∃ place named before application, rules[place]? = some named ∧
      apply hints buffer (rules.take place) = .ok before ∧
      named.rule.apply before.buffer = .ok application ∧
      record = recordOf hints place before.buffer named application := by
  obtain ⟨place, inside, rfl⟩ := List.mem_iff_getElem.1 member
  have bound : place < rules.length := records_length_of_applyFrom ran ▸ inside
  have here : rules[place]? = some rules[place] := List.getElem?_eq_getElem bound
  obtain ⟨before, application, ranBefore, tried, recorded⟩ := exists_recordOf_of_apply ran here
  rw [List.getElem?_eq_getElem inside] at recorded
  exact ⟨place, rules[place], before, application, here, ranBefore, tried, Option.some.inj recorded⟩

/-- Two records tell the same of one rule, but for the hint. -/
structure SameWork (record other : Record) : Prop where
  index : record.index = other.index
  id : record.id = other.id
  kind : record.kind = other.kind
  outcome : record.outcome = other.outcome

/-- What the record of a rule says in a run with hints. -/
structure Diagnosis (buffer : String) (rules : List NamedRule) (place : Nat) (named : NamedRule)
    (record : Record) : Prop where
  index : record.index = place
  id : record.id = named.id
  kind : record.kind = named.rule.kind
  /-- The outcome is that on the buffer of its turn, and there is a hint if this is a text that
  was not found and a near miss of it was found there. -/
  turn : ∃ before application, apply true buffer (rules.take place) = .ok before ∧
    named.rule.apply before.buffer = .ok application ∧ record.outcome = application.outcome ∧
    ∀ hint, record.hint = some hint ↔
      record.outcome = .noMatch ∧ (record.kind = .literal ∨ record.kind = .block) ∧
      ∃ expected, named.rule.expectedText? = some expected ∧
        NearMiss.find? NearMiss.leastScore before.buffer expected = some hint

theorem diagnosis_recordOf {place : Nat} {named : NamedRule} {before : Applied}
    {application : Application} (ran : apply true buffer (rules.take place) = .ok before)
    (tried : named.rule.apply before.buffer = .ok application) :
    Diagnosis buffer rules place named (recordOf true place before.buffer named application) where
  index := rfl
  id := rfl
  kind := rfl
  turn := by
    refine ⟨before, application, ran, tried, rfl, ?_⟩
    intro hint
    simp only [recordOf, hint?_eq_some_iff]
    refine and_congr_right fun _ => ?_
    constructor
    · rintro ⟨expected, text, found⟩
      exact ⟨Rule.exact_of_expectedText? text, expected, text, found⟩
    · rintro ⟨_, sought⟩
      exact sought

/-- A run with hints and one without tell the same of every rule, and the hints of the first are
near misses. -/
structure Diagnosed (buffer : String) (rules : List NamedRule) (hinted bare : Applied) :
    Prop where
  sameBuffer : hinted.buffer = bare.buffer
  sameWork : List.Forall₂ SameWork hinted.records bare.records
  withoutHints : ∀ record ∈ bare.records, record.hint = none
  length : hinted.records.length = rules.length
  diagnoses : ∀ place named, rules[place]? = some named →
    ∃ record, hinted.records[place]? = some record ∧ Diagnosis buffer rules place named record
  /-- A rule that made replacements, or that has a pattern, is never given a hint. -/
  unhinted : ∀ record ∈ hinted.records,
    record.outcome.isApplied = true ∨ record.kind = .regex → record.hint = none

theorem diagnosed_withoutHint (ran : apply true buffer rules = .ok applied) :
    Diagnosed buffer rules applied ⟨applied.buffer, applied.records.map withoutHint⟩ where
  sameBuffer := rfl
  sameWork := by
    rw [List.forall₂_map_right_iff, List.forall₂_same]
    exact fun _ _ => ⟨rfl, rfl, rfl, rfl⟩
  withoutHints := by
    intro record member
    obtain ⟨_, _, rfl⟩ := List.mem_map.1 member
    rfl
  length := records_length_of_applyFrom ran
  diagnoses := by
    intro place named here
    obtain ⟨before, application, ranBefore, tried, recorded⟩ := exists_recordOf_of_apply ran here
    exact ⟨_, recorded, diagnosis_recordOf ranBefore tried⟩
  unhinted := by
    intro record member silent
    obtain ⟨place, named, before, application, _, _, _, rfl⟩ := exists_turn_of_record ran member
    -- A hint would be that of an exact text that was not found.
    rw [Option.eq_none_iff_forall_ne_some]
    intro hint given
    obtain ⟨missed, _, text, _⟩ := hint?_eq_some_iff.1 given
    rcases silent with found | pattern
    · exact Bool.false_ne_true ((Outcome.isApplied_eq_false_iff.2 missed).symm.trans found)
    · rcases Rule.exact_of_expectedText? text with exact | exact <;>
        cases pattern.symm.trans exact

/-- Hints have no say in a run. With hints and without, it stops with the same error, or comes to
the same buffer and the same outcomes. There are none without; with hints, a record has the near
miss of a text that was not found, if the buffer of its turn has one, and nothing else has any. -/
theorem apply_diagnosed (buffer : String) (rules : List NamedRule) :
    (∃ e, apply true buffer rules = .error e ∧ apply false buffer rules = .error e) ∨
    ∃ hinted bare, apply true buffer rules = .ok hinted ∧ apply false buffer rules = .ok bare ∧
      Diagnosed buffer rules hinted bare := by
  have bare : apply false buffer rules = (apply true buffer rules).map fun applied =>
      { applied with records := applied.records.map withoutHint } :=
    applyFrom_withoutHints true 0 buffer rules
  cases ran : apply true buffer rules with
  | error e =>
      rw [ran] at bare
      exact .inl ⟨e, rfl, bare⟩
  | ok hinted =>
      rw [ran] at bare
      exact .inr ⟨hinted, _, rfl, bare, diagnosed_withoutHint ran⟩

end Run

end Emend
