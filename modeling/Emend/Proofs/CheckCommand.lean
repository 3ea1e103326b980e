import Emend.Proofs.Planned

/-! # What `check` tells of `apply`

Asked for JSON, `check` gives the answer of a dry run of `apply` that refuses skipped rules. A
run that is not dry starts with the same plan, and all that it can do beyond is to write the file.
-/

namespace Emend.Command

namespace Json

def field? (json : Json) (name : String) : Option Json :=
  match json with
  | .object fields => fields.lookup name
  | _ => none

/-- An object with another value in one of its fields. -/
def withField (json : Json) (name : String) (value : Json) : Json :=
  match json with
  | .object fields =>
      .object (fields.map fun (key, old) => if key = name then (key, value) else (key, old))
  | other => other

end Json

theorem summaryJson_written (report : Report) :
    summaryJson { report with written := true } =
      (summaryJson report).withField "written" (.boolean true) := by
  simp [summaryJson, Json.withField, Report.changed, Report.appliedCount, Report.skippedCount,
    Report.beforeDigest, Report.bufferDigest]

theorem summaryJson_bufferDigest (report : Report) :
    (summaryJson report).field? "buffer_digest" = some (.text (Digest.hex report.buffer)) :=
  rfl

/-- `apply` with `--strict` and `--json`, and with `--dry-run` or without. -/
def strictJson (dryRun : Bool) : ApplyOptions where
  dryRun := dryRun
  diff := false
  backup := false
  strict := true
  json := true

variable {console : Console} {file : Option String} {source : RuleSource} {plan : Plan}
  {disk ready after : Disk} {err : String}

/-! ## Both commands start with the same plan -/

theorem runCheck_eq_of_prepare_error {failure : Failure} (json : Bool)
    (failed : prepare (m := StateM Disk) console file source disk =
      ((err, .error failure), ready)) :
    runCheck (m := StateM Disk) console file source json disk =
      (.failed console "" err failure, ready) :=
  bind_eq_iff.2 ⟨_, _, failed, rfl⟩

theorem runApply_eq_of_prepare_error {failure : Failure} (options : ApplyOptions)
    (failed : prepare (m := StateM Disk) console file source disk =
      ((err, .error failure), ready)) :
    runApply (m := StateM Disk) console file source options disk =
      (.failed console "" err failure, ready) :=
  bind_eq_iff.2 ⟨_, _, failed, rfl⟩

theorem runCheck_eq_of_prepare_ok (json : Bool)
    (prepared : prepare (m := StateM Disk) console file source disk = ((err, .ok plan), ready)) :
    runCheck (m := StateM Disk) console file source json disk =
      (checkPlan console json err plan, ready) :=
  bind_eq_iff.2 ⟨_, _, prepared, rfl⟩

theorem runApply_eq_of_prepare_ok (options : ApplyOptions)
    (prepared : prepare (m := StateM Disk) console file source disk = ((err, .ok plan), ready)) :
    runApply (m := StateM Disk) console file source options disk =
      applyPlan (m := StateM Disk) console options err plan ready :=
  bind_eq_iff.2 ⟨_, _, prepared, rfl⟩

theorem applyPlan_strictJson_dry :
    applyPlan (m := StateM Disk) console (strictJson true) err plan ready =
      (checkPlan console true err plan, ready) := by
  cases all : plan.report.allApplied <;>
    simp [applyPlan, checkPlan, applyText, isRefused, strictJson, all] <;> rfl

theorem runApply_strictJson_dry :
    runApply (m := StateM Disk) console file source (strictJson true) disk =
      runCheck (m := StateM Disk) console file source true disk := by
  cases prepared : prepare (m := StateM Disk) console file source disk with
  | mk told ready =>
      obtain ⟨err, result⟩ := told
      cases result with
      | error failure =>
          rw [runApply_eq_of_prepare_error _ prepared, runCheck_eq_of_prepare_error _ prepared]
      | ok plan =>
          rw [runApply_eq_of_prepare_ok _ prepared, runCheck_eq_of_prepare_ok _ prepared,
            applyPlan_strictJson_dry]

/-! ## The run that is not dry -/

theorem applyPlan_strictJson_of_skipped (skipped : plan.report.allApplied = false) :
    applyPlan (m := StateM Disk) console (strictJson false) err plan ready =
      (⟨1, reportText plan.report, err ++ refusal console plan⟩, ready) := by
  simp [applyPlan, applyText, isRefused, strictJson, skipped]
  rfl

theorem applyPlan_strictJson_eq_carryOut (all : plan.report.allApplied = true) :
    applyPlan (m := StateM Disk) console (strictJson false) err plan ready =
      carryOut (m := StateM Disk) console (strictJson false) "" err plan ready := by
  simp [applyPlan, isRefused, strictJson, all]

theorem carryOut_strictJson_of_write_error (console : Console) (err : String) {reason : PatchError}
    (failed : plan.report.write (m := StateM Disk) ready = (.error reason, after)) :
    ∃ told, carryOut (m := StateM Disk) console (strictJson false) "" err plan ready =
      (⟨1, "", told⟩, after) :=
  ⟨_, bind_eq_iff.2 ⟨.ok none, ready, rfl, bind_eq_iff.2 ⟨_, _, failed, rfl⟩⟩⟩

theorem carryOut_strictJson_of_write_ok (console : Console) (err : String) {report : Report}
    (written : plan.report.write (m := StateM Disk) ready = (.ok report, after)) :
    ∃ told, carryOut (m := StateM Disk) console (strictJson false) "" err plan ready =
      (⟨0, reportText report, told⟩, after) :=
  ⟨_, bind_eq_iff.2 ⟨.ok none, ready, rfl, bind_eq_iff.2 ⟨_, _, written, rfl⟩⟩⟩

/-- How a run of `apply` that refuses skipped rules ends if none was skipped. -/
inductive Ending (plan : Plan) (ready : Disk) (response : Response) (after : Disk) : Prop
  | unwritten {reason : PatchError} (failed :
      plan.report.write (m := StateM Disk) ready = (.error reason, after))
      (status : response.status = 1) (silent : response.out = "") (kept : ready.Kept after)
  /-- The answer is that of `check` but for one field, and the file holds a text that has the
  digest that `check` told. -/
  | written {text : String} (status : response.status = 0)
      (out : response.out =
        ((summaryJson plan.report).withField "written" (.boolean true)).pretty 0 ++ "\n")
      (held : after.store.read plan.target = .ok text.toUTF8)
      (digest : (summaryJson plan.report).field? "buffer_digest" = some (.text (Digest.hex text)))

theorem ending_of_applyPlan {response : Response} (planned : Planned file source disk plan ready)
    (all : plan.report.allApplied = true)
    (ran : applyPlan (m := StateM Disk) console (strictJson false) err plan ready =
      (response, after)) : Ending plan ready response after := by
  rw [applyPlan_strictJson_eq_carryOut all] at ran
  cases performed : plan.report.write (m := StateM Disk) ready with
  | mk result last =>
      cases result with
      | error reason =>
          obtain ⟨told, ended⟩ := carryOut_strictJson_of_write_error console err performed
          cases ended.symm.trans ran
          exact .unwritten performed rfl rfl (Report.kept_of_write_error performed)
      | ok report =>
          obtain ⟨told, ended⟩ := carryOut_strictJson_of_write_ok console err performed
          cases ended.symm.trans ran
          obtain ⟨wrote, rfl⟩ := Report.write_eq_ok_iff.1 performed
          have done := (Files.writeText_ok wrote).1
          rw [planned.file_eq] at done
          refine .written rfl ?_ (Store.read_of_put done) (summaryJson_bufferDigest plan.report)
          rw [reportText, summaryJson_written]

/-! ## What `check` foretells -/

/-- What the answer of `check` says of a dry run of `apply` and of one that is not dry, both of
which refuse skipped rules and start from the same disk. -/
structure Foretells (file : Option String) (source : RuleSource) (disk : Disk)
    (check dry wet : Response × Disk) : Prop where
  /-- A dry run gives the same answer. -/
  answer : dry.1 = check.1
  kept : disk.Kept check.2 ∧ disk.Kept dry.2
  /-- Nothing is told but the summary, and that only if there is a plan. -/
  unplanned : (∀ plan ready, ¬ Planned file source disk plan ready) →
    check.1.out = "" ∧ check.1.status = 1
  planned : ∀ plan ready, Planned file source disk plan ready →
    check.1.out = (summaryJson plan.report).pretty 0 ++ "\n"
  zero : check.1.status = 0 ↔ ∃ plan ready, Planned file source disk plan ready ∧
    ∀ record ∈ plan.report.records, record.outcome ≠ .noMatch
  passed : check.1.status = 0 →
    ∃ plan ready, Planned file source disk plan ready ∧ Ending plan ready wet.1 wet.2
  skipped : ∀ plan ready, Planned file source disk plan ready →
    (∃ record ∈ plan.report.records, record.outcome = .noMatch) →
    check.1.status = 1 ∧ wet.1.status = 1 ∧ wet.1.out = check.1.out ∧ disk.Kept wet.2

theorem checkPlan_status_eq_zero_iff {json : Bool} :
    (checkPlan console json err plan).status = 0 ↔ plan.report.allApplied = true := by
  cases all : plan.report.allApplied <;> simp [checkPlan, all]

theorem forall_ne_noMatch_iff {report : Report} :
    (∀ record ∈ report.records, record.outcome ≠ .noMatch) ↔ report.allApplied = true := by
  rw [← Bool.not_eq_false, Report.allApplied_eq_false_iff]
  simp

/-- Asked for JSON, `check` foretells `apply`, whatever the files are and whichever operation on
them fails. -/
theorem runCheck_foretells (console : Console) (file : Option String) (source : RuleSource)
    (disk : Disk) :
    Foretells file source disk
      (runCheck (m := StateM Disk) console file source true disk)
      (runApply (m := StateM Disk) console file source (strictJson true) disk)
      (runApply (m := StateM Disk) console file source (strictJson false) disk) := by
  rw [runApply_strictJson_dry]
  cases prepared : prepare (m := StateM Disk) console file source disk with
  | mk told ready =>
      obtain ⟨err, result⟩ := told
      have kept := kept_of_prepare prepared
      cases result with
      | error failure =>
          have unplanned : ∀ plan ready, ¬ Planned file source disk plan ready :=
            fun _ _ => not_planned_of_prepare_error prepared
          rw [runCheck_eq_of_prepare_error _ prepared, runApply_eq_of_prepare_error _ prepared]
          exact {
            answer := rfl
            kept := ⟨kept, kept⟩
            unplanned := fun _ => ⟨rfl, rfl⟩
            planned := fun _ _ planned => (unplanned _ _ planned).elim
            zero := by simp [Response.failed, unplanned]
            passed := nofun
            skipped := fun _ _ planned => (unplanned _ _ planned).elim }
      | ok plan =>
          have planned := prepare_eq_ok_iff.1 ⟨err, prepared⟩
          rw [runCheck_eq_of_prepare_ok _ prepared, runApply_eq_of_prepare_ok _ prepared]
          exact {
            answer := rfl
            kept := ⟨kept, kept⟩
            unplanned := fun none => (none _ _ planned).elim
            planned := by
              intro other again others
              obtain ⟨rfl, rfl⟩ := planned.unique others
              rfl
            zero := by
              simp only [forall_ne_noMatch_iff]
              rw [planned.exists_iff fun plan _ => plan.report.allApplied = true]
              exact checkPlan_status_eq_zero_iff
            passed := by
              intro passed
              have all := checkPlan_status_eq_zero_iff.1 passed
              exact ⟨plan, ready, planned, ending_of_applyPlan planned all rfl⟩
            skipped := by
              intro other again others missed
              obtain ⟨rfl, rfl⟩ := planned.unique others
              have skipped := Report.allApplied_eq_false_iff.2 missed
              rw [applyPlan_strictJson_of_skipped skipped]
              exact ⟨by simp [checkPlan, skipped], rfl, rfl, kept⟩ }

end Emend.Command
