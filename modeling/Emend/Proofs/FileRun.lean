import Emend.Proofs.Disk
import Emend.Proofs.FirstFault

/-! # Runs on files

A run on a file reads it, applies every rule to the text in memory and writes the file last.
Whatever fails on this way fails before anything has been changed.
-/

namespace Emend

theorem Run.exists_apply_of_hints {hints : Bool} {buffer : String} {rules : List NamedRule}
    {applied : Applied} (ran : apply hints buffer rules = .ok applied) (others : Bool) :
    ∃ other, apply others buffer rules = .ok other ∧ other.buffer = applied.buffer ∧
      other.records.map withoutHint = applied.records.map withoutHint := by
  have bare := applyFrom_withoutHints hints 0 buffer rules
  rw [applyFrom_withoutHints others 0 buffer rules] at bare
  change (apply others buffer rules).map _ = (apply hints buffer rules).map _ at bare
  rw [ran] at bare
  cases ranOther : apply others buffer rules with
  | error e =>
      rw [ranOther] at bare
      cases bare
  | ok other =>
      rw [ranOther] at bare
      simp only [Except.map, Except.ok.injEq, Applied.mk.injEq] at bare
      exact ⟨other, rfl, bare.1, bare.2⟩

namespace Files

variable {disk after : Disk} {path text : String}

theorem writeText_eq_alter (path text : String) :
    writeText (m := StateM Disk) path text =
      Disk.alter (.written path text.toUTF8) (·.write path text.toUTF8) := rfl

theorem kept_of_writeText_error {cause : FileError}
    (failed : writeText (m := StateM Disk) path text disk = (.error cause, after)) :
    disk.Kept after := by
  rw [writeText_eq_alter] at failed
  exact Disk.kept_of_alter_error failed

theorem writeText_ok (done : writeText (m := StateM Disk) path text disk = (.ok (), after)) :
    disk.store.write path text.toUTF8 = .ok after.store ∧
      after.changes = disk.changes ++ [.written path text.toUTF8] := by
  rw [writeText_eq_alter] at done
  exact Disk.alter_ok done

end Files

namespace Report

variable {report : Report} {disk after : Disk}

theorem ofText_eq_ok_iff {hints : Bool} {set : RuleSet} {file text : String} :
    ofText hints set file text = .ok report ↔
      ∃ applied, Run.apply hints text set.rules = .ok applied ∧
        report = ofApplied file text applied := by
  unfold ofText
  cases Run.apply hints text set.rules <;> simp [Except.map, eq_comm]

theorem kept_of_write_error {e : PatchError}
    (failed : report.write (m := StateM Disk) disk = (.error e, after)) : disk.Kept after := by
  obtain ⟨result, middle, performed, rest⟩ := bind_eq_iff.1 failed
  cases result with
  | error cause =>
      cases rest
      exact Files.kept_of_writeText_error performed
  | ok _ => cases rest

theorem write_eq_ok_iff {done : Report} :
    report.write (m := StateM Disk) disk = (.ok done, after) ↔
      Files.writeText (m := StateM Disk) report.file report.buffer disk = (.ok (), after) ∧
        done = { report with written := true } := by
  constructor
  · intro written
    obtain ⟨result, middle, performed, rest⟩ := bind_eq_iff.1 written
    cases result with
    | error cause => cases rest
    | ok _ =>
        cases rest
        exact ⟨performed, rfl⟩
  · rintro ⟨performed, rfl⟩
    exact bind_eq_iff.2 ⟨_, _, performed, rfl⟩

theorem allApplied_eq_false_iff :
    report.allApplied = false ↔ ∃ record ∈ report.records, record.outcome = .noMatch := by
  have bound : report.appliedCount ≤ report.records.length := List.countP_le_length
  have full : report.allApplied = true ↔ ∀ record ∈ report.records, record.outcome.isApplied := by
    rw [← List.countP_eq_length]
    simp only [Report.allApplied, Report.skippedCount, beq_iff_eq, Report.appliedCount] at bound ⊢
    omega
  rw [← Bool.not_eq_true, full]
  simp

end Report

namespace RuleSet

variable {set : RuleSet} {hints : Bool} {path : String} {disk after : Disk}

theorem plan_eq_ok_iff {report : Report} :
    set.plan (m := StateM Disk) hints path disk = (.ok report, after) ↔
      ∃ text, Files.readText (m := StateM Disk) path disk = (.ok text, after) ∧
        Report.ofText hints set path text = .ok report := by
  constructor
  · intro planned
    obtain ⟨result, middle, performed, rest⟩ := bind_eq_iff.1 planned
    cases result with
    | error cause => cases rest
    | ok text =>
        have same : (Report.ofText hints set path text, middle) = (.ok report, after) := rest
        cases congrArg Prod.snd same
        exact ⟨text, performed, congrArg Prod.fst same⟩
  · rintro ⟨text, performed, planText⟩
    refine bind_eq_iff.2 ⟨_, _, performed, ?_⟩
    rw [← planText]
    rfl

theorem kept_of_plan {result : Except PatchError Report}
    (planned : set.plan (m := StateM Disk) hints path disk = (result, after)) :
    disk.Kept after := by
  obtain ⟨text, middle, performed, rest⟩ := bind_eq_iff.1 planned
  have kept := (Files.readText_spec performed).1
  cases text <;> cases rest <;> exact kept

theorem file_of_plan_ok {report : Report}
    (planned : set.plan (m := StateM Disk) hints path disk = (.ok report, after)) :
    report.file = path := by
  obtain ⟨_, _, planText⟩ := plan_eq_ok_iff.1 planned
  obtain ⟨_, _, rfl⟩ := Report.ofText_eq_ok_iff.1 planText
  rfl

theorem held_of_plan_ok {report : Report}
    (planned : set.plan (m := StateM Disk) hints path disk = (.ok report, after)) :
    disk.store.read path = .ok report.before.toUTF8 ∧
      Report.ofText hints set path report.before = .ok report := by
  obtain ⟨text, performed, planText⟩ := plan_eq_ok_iff.1 planned
  have about : report.before = text := by
    obtain ⟨_, _, rfl⟩ := Report.ofText_eq_ok_iff.1 planText
    rfl
  rw [about]
  exact ⟨(Files.readText_spec performed).2 text rfl, planText⟩

theorem run_eq_ok_iff {report : Report} :
    set.run (m := StateM Disk) hints path disk = (.ok report, after) ↔
      ∃ plan ready, set.plan (m := StateM Disk) hints path disk = (.ok plan, ready) ∧
        plan.write (m := StateM Disk) ready = (.ok report, after) := by
  constructor
  · intro ran
    obtain ⟨result, ready, planned, rest⟩ := bind_eq_iff.1 ran
    cases result with
    | error e => cases rest
    | ok plan => exact ⟨plan, ready, planned, rest⟩
  · rintro ⟨plan, ready, planned, written⟩
    exact bind_eq_iff.2 ⟨_, ready, planned, written⟩

theorem kept_of_run_error {e : PatchError}
    (failed : set.run (m := StateM Disk) hints path disk = (.error e, after)) :
    disk.Kept after := by
  obtain ⟨result, ready, planned, rest⟩ := bind_eq_iff.1 failed
  have kept := kept_of_plan planned
  cases result with
  | error _ =>
      cases rest
      exact kept
  | ok plan => exact kept.trans (Report.kept_of_write_error rest)

/-- What a run that succeeds has done: the text of the file went through the rules, the result
was written to the file, and everything else is as it was. -/
structure Rewritten (set : RuleSet) (path : String) (disk : Disk) (report : Report)
    (after : Disk) : Prop where
  file : report.file = path
  written : report.written = true
  /-- The report has the text that the file held. -/
  before : disk.store.read path = .ok report.before.toUTF8
  /-- The file holds the text behind the rules. -/
  behind : after.store.read path = .ok report.buffer.toUTF8
  /-- That text and the outcomes are what the rules make of the text before. -/
  applied : ∃ applied, Run.apply true report.before set.rules = .ok applied ∧
    applied.buffer = report.buffer ∧
    (applied.records.map fun record => (record.index, record.outcome)) = report.outcomes
  /-- Every place but that of the file has what it had. -/
  others : ∀ place, disk.store.resolve path ≠ .ok place →
    after.store.get? place = disk.store.get? place
  changes : after.changes = disk.changes ++ [.written path report.buffer.toUTF8]

theorem rewritten_of_run {report : Report}
    (ran : set.run (m := StateM Disk) hints path disk = (.ok report, after)) :
    set.Rewritten path disk report after := by
  obtain ⟨plan, ready, planned, carried⟩ := run_eq_ok_iff.1 ran
  have kept := kept_of_plan planned
  obtain ⟨held, planText⟩ := held_of_plan_ok planned
  obtain ⟨applied, went, shape⟩ := Report.ofText_eq_ok_iff.1 planText
  obtain ⟨wrote, rfl⟩ := Report.write_eq_ok_iff.1 carried
  obtain ⟨done, changes⟩ := Files.writeText_ok wrote
  obtain ⟨hinted, wentHinted, sameBuffer, sameRecords⟩ := Run.exists_apply_of_hints went true
  have file := file_of_plan_ok planned
  have buffer : plan.buffer = applied.buffer := by rw [shape]; rfl
  have records : plan.records = applied.records := by rw [shape]; rfl
  rw [file, kept.store] at done
  exact {
    file := file
    written := rfl
    before := held
    behind := Store.read_of_put done
    applied := by
      refine ⟨hinted, wentHinted, sameBuffer.trans buffer.symm, ?_⟩
      have outcomes := congrArg
        (List.map fun record : Record => (record.index, record.outcome)) sameRecords
      simpa only [Report.outcomes, records, List.map_map, Function.comp_def, Run.withoutHint]
        using outcomes
    others := fun place elsewhere => Store.get?_of_put done elsewhere
    changes := by rw [changes, kept.changes, file] }

theorem Rewritten.read_of_noMatch {report : Report}
    (done : set.Rewritten path disk report after)
    (none : ∀ record ∈ report.records, record.outcome = .noMatch) :
    after.store.read path = disk.store.read path := by
  obtain ⟨applied, went, buffer, outcomes⟩ := done.applied
  have noneApplied : ∀ record ∈ applied.records, record.outcome = .noMatch := by
    intro record member
    have listed : (record.index, record.outcome) ∈ report.outcomes := by
      rw [← outcomes]
      exact List.mem_map.2 ⟨record, member, rfl⟩
    obtain ⟨reported, inside, same⟩ := List.mem_map.1 listed
    have outcome : reported.outcome = record.outcome := congrArg Prod.snd same
    rw [← outcome]
    exact none reported inside
  have unchanged : report.buffer = report.before :=
    buffer.symm.trans (Run.buffer_of_applyFrom_of_noMatch went noneApplied)
  rw [done.behind, done.before, unchanged]

/-- A run succeeds if the file can be read, no rule stops and the file can be written, and
only then. -/
theorem exists_run_eq_ok_iff :
    (∃ report after, set.run (m := StateM Disk) hints path disk = (.ok report, after)) ↔
      ∃ text ready applied after,
        Files.readText (m := StateM Disk) path disk = (.ok text, ready) ∧
        Run.apply hints text set.rules = .ok applied ∧
        Files.writeText (m := StateM Disk) path applied.buffer ready = (.ok (), after) := by
  constructor
  · rintro ⟨report, after, ran⟩
    obtain ⟨plan, ready, planned, carried⟩ := run_eq_ok_iff.1 ran
    obtain ⟨text, performed, planText⟩ := plan_eq_ok_iff.1 planned
    obtain ⟨applied, went, rfl⟩ := Report.ofText_eq_ok_iff.1 planText
    obtain ⟨wrote, _⟩ := Report.write_eq_ok_iff.1 carried
    exact ⟨text, ready, applied, after, performed, went, wrote⟩
  · rintro ⟨text, ready, applied, after, performed, went, wrote⟩
    have planned : set.plan (m := StateM Disk) hints path disk =
        (.ok (.ofApplied path text applied), ready) :=
      plan_eq_ok_iff.2 ⟨text, performed, Report.ofText_eq_ok_iff.2 ⟨applied, went, rfl⟩⟩
    exact ⟨_, after, run_eq_ok_iff.2 ⟨_, ready, planned, Report.write_eq_ok_iff.2 ⟨wrote, rfl⟩⟩⟩

/-- A run on a file does all of its work or nothing. Planning changes nothing. A run that
fails, at whatever point, changes nothing either; one that succeeds, has read the file, taken
its text through the rules and written the result, and has touched no other file. If no rule
found anything, the file holds the bytes it held. -/
theorem run_all_or_nothing (set : RuleSet) (hints : Bool) (path : String) (disk : Disk) :
    (∀ result after, set.plan (m := StateM Disk) hints path disk = (result, after) →
      disk.Kept after) ∧
    (∀ e after, set.run (m := StateM Disk) hints path disk = (.error e, after) →
      disk.Kept after) ∧
    (∀ report after, set.run (m := StateM Disk) hints path disk = (.ok report, after) →
      set.Rewritten path disk report after ∧
      ((∀ record ∈ report.records, record.outcome = .noMatch) →
        after.store.read path = disk.store.read path)) ∧
    ((∃ report after, set.run (m := StateM Disk) hints path disk = (.ok report, after)) ↔
      ∃ text ready applied after,
        Files.readText (m := StateM Disk) path disk = (.ok text, ready) ∧
        Run.apply hints text set.rules = .ok applied ∧
        Files.writeText (m := StateM Disk) path applied.buffer ready = (.ok (), after)) := by
  refine ⟨fun _ _ planned => kept_of_plan planned, fun _ _ failed => kept_of_run_error failed,
    ?_, exists_run_eq_ok_iff⟩
  intro report after ran
  have done := rewritten_of_run ran
  exact ⟨done, done.read_of_noMatch⟩

end RuleSet

end Emend
