import Emend.Proofs.FileRun

/-! # Rules that find nothing

A rule that finds nothing hands on the buffer it was given, so a run without it goes the same
way. All that changes is the places of the rules behind it.
-/

namespace Emend

/-- The rules at the places that are kept, where the first rule has the place `start`. -/
def keepPlaces (keep : Nat → Bool) (start : Nat) (rules : List NamedRule) : List NamedRule :=
  ((rules.zipIdx start).filter fun entry => keep entry.2).map Prod.fst

/-- Records with new places, one after the other. -/
def renumber (start : Nat) (records : List Record) : List Record :=
  records.mapIdx fun place record => { record with index := start + place }

section Places

variable {keep : Nat → Bool} {start : Nat} {named : NamedRule} {rest : List NamedRule}

@[simp]
theorem keepPlaces_cons_of_kept (kept : keep start = true) :
    keepPlaces keep start (named :: rest) = named :: keepPlaces keep (start + 1) rest := by
  simp [keepPlaces, kept]

@[simp]
theorem keepPlaces_cons_of_dropped (dropped : keep start = false) :
    keepPlaces keep start (named :: rest) = keepPlaces keep (start + 1) rest := by
  simp [keepPlaces, dropped]

@[simp]
theorem renumber_cons (record : Record) (records : List Record) :
    renumber start (record :: records) =
      { record with index := start } :: renumber (start + 1) records := by
  simp [renumber, Nat.add_assoc, Nat.add_comm 1]

end Places

namespace Run

variable {hints : Bool} {buffer : String} {rules : List NamedRule} {applied : Applied}

/-- The run without some of the rules that found nothing. The two runs are at different places
of their lists, but at the same buffer. -/
theorem applyFrom_keepPlaces {keep : Nat → Bool} {start : Nat}
    (ran : applyFrom hints start buffer rules = .ok applied)
    (skipped : ∀ record ∈ applied.records, keep record.index = false → record.outcome = .noMatch)
    (other : Nat) :
    applyFrom hints other buffer (keepPlaces keep start rules) =
      .ok ⟨applied.buffer,
        renumber other (applied.records.filter fun record => keep record.index)⟩ := by
  induction rules generalizing start other buffer applied with
  | nil =>
      cases ran
      rfl
  | cons named rest ih =>
      obtain ⟨application, later, tried, continued, rfl⟩ := applyFrom_cons_eq_ok_iff.1 ran
      have skippedLater : ∀ record ∈ later.records,
          keep record.index = false → record.outcome = .noMatch :=
        fun record member => skipped record (List.mem_cons_of_mem _ member)
      cases choice : keep start with
      | true =>
          rw [keepPlaces_cons_of_kept choice, applyFrom_cons_of_ok tried,
            ih continued skippedLater (other + 1)]
          simp [Except.map, recordOf, choice]
      | false =>
          have none : application.outcome = .noMatch := skipped _ List.mem_cons_self choice
          have unchanged := Rule.eq_unchanged_of_noMatch tried none
          subst unchanged
          rw [keepPlaces_cons_of_dropped choice]
          simpa [recordOf, choice, Application.unchanged] using ih continued skippedLater other

end Run

theorem Report.appliedCount_pos {report : Report} {hints : Bool} {set : RuleSet}
    {file text : String} (made : ofText hints set file text = .ok report)
    (changed : report.changed = true) : 1 ≤ report.appliedCount := by
  obtain ⟨applied, ran, rfl⟩ := ofText_eq_ok_iff.1 made
  refine Nat.pos_of_ne_zero fun zero => ?_
  have none : ∀ record ∈ applied.records, record.outcome = .noMatch := by
    simpa [ofApplied] using List.countP_eq_zero.1 zero
  have same : applied.buffer = text := Run.buffer_of_applyFrom_of_noMatch ran none
  simp [Report.changed, ofApplied, same] at changed

/-- A run that changes the text of a file, planned or carried out, has applied a rule. -/
theorem RuleSet.appliedCount_pos_of_changed {set : RuleSet} {hints : Bool} {path : String}
    {disk after : Disk} {report : Report}
    (made : set.plan (m := StateM Disk) hints path disk = (.ok report, after) ∨
      set.run (m := StateM Disk) hints path disk = (.ok report, after))
    (changed : report.changed = true) : 1 ≤ report.appliedCount := by
  rcases made with planned | carried
  · obtain ⟨_, _, planText⟩ := plan_eq_ok_iff.1 planned
    exact Report.appliedCount_pos planText changed
  · obtain ⟨plan, _, planned, wrote⟩ := run_eq_ok_iff.1 carried
    obtain ⟨_, _, planText⟩ := plan_eq_ok_iff.1 planned
    obtain ⟨_, rfl⟩ := Report.write_eq_ok_iff.1 wrote
    -- What was written has the texts and the records of the plan.
    have counted : 1 ≤ plan.appliedCount := Report.appliedCount_pos planText changed
    exact counted

/-- Rules that find nothing have no influence. Without any of them a run comes to the same
buffer, and the other rules leave the same records but for their places. A run that changes the
text of a file, planned or carried out, has therefore applied a rule. -/
theorem Run.apply_keepPlaces {hints : Bool} {buffer : String} {rules : List NamedRule}
    {applied : Applied} (ran : apply hints buffer rules = .ok applied) (keep : Nat → Bool)
    (skipped : ∀ record ∈ applied.records, keep record.index = false → record.outcome = .noMatch) :
    apply hints buffer (keepPlaces keep 0 rules) =
      .ok ⟨applied.buffer, renumber 0 (applied.records.filter fun record => keep record.index)⟩ ∧
    ∀ (set : RuleSet) path disk report after,
      (set.plan (m := StateM Disk) hints path disk = (.ok report, after) ∨
        set.run (m := StateM Disk) hints path disk = (.ok report, after)) →
      report.changed = true → 1 ≤ report.appliedCount :=
  ⟨applyFrom_keepPlaces ran skipped 0,
    fun _ _ _ _ _ made changed => RuleSet.appliedCount_pos_of_changed made changed⟩

/-- Two rules that find nothing around one that does. The text of the last is nearly there. -/
def sparseRules : List NamedRule := [
  ⟨"a", .literal "absent" "x" .all⟩,
  ⟨"b", .literal "one" "1" .all⟩,
  ⟨"c", .block "two y" "z"⟩]

def sparseRun : Applied := ⟨"1\ntwo x\n", [
  ⟨0, "a", .literal, .noMatch, none⟩,
  ⟨1, "b", .literal, .applied 1, none⟩,
  ⟨2, "c", .block, .noMatch, some ⟨2, ⟨4605380978949069210⟩, 2, "two x", "two y"⟩⟩]⟩

theorem apply_sparseRules : Run.apply true "one\ntwo x\n" sparseRules = .ok sparseRun :=
  eq_ok_of_toOption (by decide +kernel)

theorem sparseRun_without_first :
    Run.apply true "one\ntwo x\n" sparseRules = .ok sparseRun ∧
    (∀ record ∈ sparseRun.records, (record.index != 0) = false → record.outcome = .noMatch) ∧
    Run.apply true "one\ntwo x\n" sparseRules.tail = .ok ⟨"1\ntwo x\n", [
      ⟨0, "b", .literal, .applied 1, none⟩,
      ⟨1, "c", .block, .noMatch, some ⟨2, ⟨4605380978949069210⟩, 2, "two x", "two y"⟩⟩]⟩ := by
  have skipped : ∀ record ∈ sparseRun.records,
      (record.index != 0) = false → record.outcome = .noMatch := by decide
  exact ⟨apply_sparseRules, skipped, (Run.apply_keepPlaces apply_sparseRules (· != 0) skipped).1⟩

end Emend
