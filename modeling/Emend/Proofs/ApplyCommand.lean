import Emend.Proofs.Backup
import Emend.Proofs.Planned

/-! # What `apply` does to files

A run of `apply` takes one of six ways. It has no plan, it only shows its plan, it refuses the
plan, or it fails with the backup, with the file, or not at all. What the status tells about
the files is read off from these ways.
-/

namespace Emend.Command

variable {console : Console} {file : Option String} {source : RuleSource}
  {options : ApplyOptions} {plan : Plan} {disk ready again after : Disk}

/-! ## The ways a run can take -/

/-- A plan is carried out: the backup, if it is wanted, and the file succeed. -/
def Carried (options : ApplyOptions) (plan : Plan) (ready after : Disk) : Prop :=
  ∃ path? saved report,
    backup (m := StateM Disk) options.backup plan.target ready = (.ok path?, saved) ∧
    plan.report.write (m := StateM Disk) saved = (.ok report, after)

/-- The ways that a run of `apply` can take, with the status and the disk at the end. -/
inductive Course (file : Option String) (source : RuleSource) (options : ApplyOptions)
    (disk : Disk) : Nat → Disk → Prop
  /-- There is no plan. -/
  | unplanned {after : Disk} (unplanned : ∀ plan ready, ¬ Planned file source disk plan ready)
      (kept : disk.Kept after) : Course file source options disk 1 after
  /-- The plan is only shown. -/
  | shown {plan : Plan} {ready : Disk} (planned : Planned file source disk plan ready)
      (dry : options.dryRun = true) :
      Course file source options disk (if isRefused options plan then 1 else 0) ready
  | refused {plan : Plan} {ready : Disk} (planned : Planned file source disk plan ready)
      (wet : options.dryRun = false) (refused : Refused options plan) :
      Course file source options disk 1 ready
  /-- The backup fails. -/
  | unsaved {plan : Plan} {ready after : Disk} {reason : PatchError}
      (planned : Planned file source disk plan ready)
      (wet : options.dryRun = false) (passed : ¬ Refused options plan)
      (failed : backup (m := StateM Disk) options.backup plan.target ready =
        (.error reason, after)) :
      Course file source options disk 1 after
  /-- The file cannot be written. -/
  | unwritten {plan : Plan} {ready saved after : Disk} {path? : Option String}
      {reason : PatchError} (planned : Planned file source disk plan ready)
      (wet : options.dryRun = false) (passed : ¬ Refused options plan)
      (backed : backup (m := StateM Disk) options.backup plan.target ready = (.ok path?, saved))
      (failed : plan.report.write (m := StateM Disk) saved = (.error reason, after)) :
      Course file source options disk 1 after
  | written {plan : Plan} {ready after : Disk} (planned : Planned file source disk plan ready)
      (wet : options.dryRun = false) (passed : ¬ Refused options plan)
      (carried : Carried options plan ready after) :
      Course file source options disk 0 after

theorem course_of_carryOut {out err : String} {response : Response}
    (planned : Planned file source disk plan ready) (wet : options.dryRun = false)
    (passed : ¬ Refused options plan)
    (ran : carryOut (m := StateM Disk) console options out err plan ready = (response, after)) :
    Course file source options disk response.status after := by
  obtain ⟨result, saved, backed, rest⟩ := bind_eq_iff.1 ran
  cases result with
  | error reason =>
      cases rest
      exact .unsaved planned wet passed backed
  | ok path? =>
      obtain ⟨result, last, wrote, rest⟩ := bind_eq_iff.1 rest
      cases result with
      | error reason =>
          cases rest
          exact .unwritten planned wet passed backed wrote
      | ok report =>
          cases rest
          exact .written planned wet passed ⟨_, _, _, backed, wrote⟩

theorem course_of_applyPlan {err : String} {response : Response}
    (planned : Planned file source disk plan ready)
    (ran : applyPlan (m := StateM Disk) console options err plan ready = (response, after)) :
    Course file source options disk response.status after := by
  cases dry : options.dryRun with
  | true =>
      simp only [applyPlan, dry, if_true] at ran
      cases ran
      exact .shown planned dry
  | false =>
      by_cases refused : isRefused options plan = true
      · simp only [applyPlan, dry, refused, if_true, Bool.false_eq_true, if_false] at ran
        cases ran
        exact .refused planned dry (isRefused_iff.1 refused)
      · simp only [applyPlan, dry, refused, Bool.false_eq_true, if_false] at ran
        exact course_of_carryOut planned dry (fun bad => refused (isRefused_iff.2 bad)) ran

theorem course_of_runApply {response : Response}
    (ran : runApply (m := StateM Disk) console file source options disk = (response, after)) :
    Course file source options disk response.status after := by
  obtain ⟨⟨journal, result⟩, ready, prepared, rest⟩ := bind_eq_iff.1 ran
  cases result with
  | error failure =>
      cases rest
      exact .unplanned (fun _ _ => not_planned_of_prepare_error prepared) (kept_of_prepare prepared)
  | ok plan => exact course_of_applyPlan (prepare_eq_ok_iff.1 ⟨journal, prepared⟩) rest

/-! ## What the ways leave behind -/

theorem not_carried_of_backup_error {e : PatchError}
    (failed : backup (m := StateM Disk) options.backup plan.target ready = (.error e, again)) :
    ¬ Carried options plan ready after := by
  rintro ⟨_, _, _, backed, _⟩
  cases failed.symm.trans backed

theorem not_carried_of_write_error {path? : Option String} {saved : Disk} {e : PatchError}
    (backed : backup (m := StateM Disk) options.backup plan.target ready = (.ok path?, saved))
    (failed : plan.report.write (m := StateM Disk) saved = (.error e, again)) :
    ¬ Carried options plan ready after := by
  rintro ⟨_, _, _, done, wrote⟩
  cases backed.symm.trans done
  cases failed.symm.trans wrote

theorem Carried.written (carried : Carried options plan ready after)
    (planned : Planned file source disk plan ready) :
    ∃ saved, BackedUp options.backup plan.target disk saved ∧
      saved.store.write plan.target plan.report.buffer.toUTF8 = .ok after.store ∧
      after.changes = saved.changes ++ [.written plan.target plan.report.buffer.toUTF8] := by
  obtain ⟨_, saved, _, backed, wrote⟩ := carried
  obtain ⟨performed, _⟩ := Report.write_eq_ok_iff.1 wrote
  obtain ⟨done, changes⟩ := Files.writeText_ok performed
  rw [planned.file_eq] at done changes
  exact ⟨saved, (backedUp_of_backup_ok backed).of_kept planned.kept ⟨rfl, rfl⟩, done, changes⟩

/-- What a run leaves behind: nothing is changed, the backup has been made, or the backup has
been made and the file has been written. -/
inductive Effect (file : Option String) (source : RuleSource) (options : ApplyOptions)
    (disk : Disk) : Nat → Disk → Prop
  | kept {status : Nat} {after : Disk} (kept : disk.Kept after)
      (other : status ≠ 0 ∨ options.dryRun = true) : Effect file source options disk status after
  | backedUp {plan : Plan} {ready after : Disk} {status : Nat}
      (planned : Planned file source disk plan ready) (wet : options.dryRun = false)
      (passed : ¬ Refused options plan) (failed : status ≠ 0)
      (backed : BackedUp options.backup plan.target disk after) :
      Effect file source options disk status after
  | written {plan : Plan} {ready saved after : Disk}
      (planned : Planned file source disk plan ready) (wet : options.dryRun = false)
      (passed : ¬ Refused options plan) (backed : BackedUp options.backup plan.target disk saved)
      (done : saved.store.write plan.target plan.report.buffer.toUTF8 = .ok after.store)
      (changes : after.changes =
        saved.changes ++ [.written plan.target plan.report.buffer.toUTF8]) :
      Effect file source options disk 0 after

namespace Course

variable {status : Nat} (course : Course file source options disk status after)
include course

theorem zero_iff : status = 0 ↔ ∃ plan ready, Planned file source disk plan ready ∧
    ¬ Refused options plan ∧
      (options.dryRun = true ∨ ∃ last, Carried options plan ready last) := by
  cases course with
  | unplanned unplanned kept => simp [unplanned]
  | shown planned dry =>
      rw [planned.exists_iff, ← isRefused_iff]
      simp [dry]
  | refused planned wet refused =>
      rw [planned.exists_iff]
      simp [refused]
  | unsaved planned wet passed failed =>
      rw [planned.exists_iff]
      simp [wet, not_carried_of_backup_error failed]
  | unwritten planned wet passed backed failed =>
      rw [planned.exists_iff]
      simp [wet, not_carried_of_write_error backed failed]
  | written planned wet passed carried =>
      rw [planned.exists_iff]
      simp only [passed, not_false_iff, true_and, true_iff]
      exact .inr ⟨_, carried⟩

theorem effect : Effect file source options disk status after := by
  cases course with
  | unplanned unplanned kept => exact .kept kept (.inl Nat.one_ne_zero)
  | shown planned dry => exact .kept planned.kept (.inr dry)
  | refused planned wet refused => exact .kept planned.kept (.inl Nat.one_ne_zero)
  | unsaved planned wet passed failed =>
      exact .kept (planned.kept.trans (kept_of_backup_error failed)) (.inl Nat.one_ne_zero)
  | unwritten planned wet passed backed failed =>
      refine .backedUp planned wet passed Nat.one_ne_zero ?_
      exact (backedUp_of_backup_ok backed).of_kept planned.kept (Report.kept_of_write_error failed)
  | written planned wet passed carried =>
      obtain ⟨saved, backed, done, changes⟩ := carried.written planned
      exact .written planned wet passed backed done changes

end Course

/-! ## What the status tells -/

/-- The file of a plan has been overwritten with the text behind the rules. -/
def Overwritten (plan : Plan) (after : Disk) : Prop :=
  .written plan.target plan.report.buffer.toUTF8 ∈ after.changes ∧
    after.store.read plan.target = .ok plan.report.buffer.toUTF8

/-- A status tells the truth about what a run has done to files. -/
structure Truthful (file : Option String) (source : RuleSource) (options : ApplyOptions)
    (disk : Disk) (status : Nat) (after : Disk) : Prop where
  /-- The status is zero if there is a plan that is not refused, and it is only to be shown or
  it has been carried out, and only then. -/
  zero : status = 0 ↔ ∃ plan ready, Planned file source disk plan ready ∧
    ¬ Refused options plan ∧ (options.dryRun = true ∨ ∃ last, Carried options plan ready last)
  /-- The file is overwritten if the status is zero and the plan was not only to be shown, and
  only then. -/
  overwritten : (∃ plan ready, Planned file source disk plan ready ∧ Overwritten plan after) ↔
    status = 0 ∧ options.dryRun = false
  /-- If the status is not zero, the file holds what it held, whether there is a plan or not. -/
  intact : status ≠ 0 → ∀ rules loaded target,
    RuleSource.load (m := StateM Disk) source disk = (.ok rules, loaded) →
    resolveTarget file rules = .ok target →
    after.store.read target = disk.store.read target
  /-- Nothing was ever changed but the backup, if it is wanted, and the file. -/
  changes : ∀ change ∈ after.changes, ∃ plan ready, Planned file source disk plan ready ∧
    (options.backup = true ∧ change = .copied plan.target (backupPath plan.target) ∨
      change = .written plan.target plan.report.buffer.toUTF8)
  /-- Every place has what it had but that of the file and, if it is wanted, of the backup. -/
  others : ∀ place, after.store.get? place ≠ disk.store.get? place →
    ∃ plan ready, Planned file source disk plan ready ∧
      (disk.store.resolve plan.target = .ok place ∨
        options.backup = true ∧ disk.store.resolve (backupPath plan.target) = .ok place)
  /-- Nothing is changed if the plan is only to be shown, there is none, or it is refused. -/
  nothing : (options.dryRun = true ∨ (∀ plan ready, ¬ Planned file source disk plan ready) ∨
    ∃ plan ready, Planned file source disk plan ready ∧ Refused options plan) → disk.Kept after

namespace Effect

variable {status : Nat}

theorem kept_of_nothing (effect : Effect file source options disk status after)
    (nothing : options.dryRun = true ∨ (∀ plan ready, ¬ Planned file source disk plan ready) ∨
      ∃ plan ready, Planned file source disk plan ready ∧ Refused options plan) :
    disk.Kept after := by
  have impossible : ∀ {plan ready}, Planned file source disk plan ready →
      options.dryRun = false → ¬ Refused options plan → False := by
    intro plan ready planned wet passed
    rw [planned.exists_iff fun plan _ => Refused options plan] at nothing
    rcases nothing with dry | none | refused
    · exact Bool.false_ne_true (wet.symm.trans dry)
    · exact none plan ready planned
    · exact passed refused
  cases effect with
  | kept kept _ => exact kept
  | backedUp planned wet passed _ _ => exact (impossible planned wet passed).elim
  | written planned wet passed _ _ _ => exact (impossible planned wet passed).elim

theorem intact (effect : Effect file source options disk status after) (failed : status ≠ 0)
    {rules : RuleSet} {loaded : Disk} {target : String}
    (performed : RuleSource.load (m := StateM Disk) source disk = (.ok rules, loaded))
    (chosen : resolveTarget file rules = .ok target) :
    after.store.read target = disk.store.read target := by
  cases effect with
  | kept kept _ => rw [kept.store]
  | backedUp planned _ _ _ backed =>
      obtain ⟨_, performed', chosen', _⟩ := planned
      cases performed.symm.trans performed'
      cases chosen.symm.trans chosen'
      exact backed.read
  | written _ _ _ _ _ _ => exact absurd rfl failed

theorem others (effect : Effect file source options disk status after) {place : Location}
    (differs : after.store.get? place ≠ disk.store.get? place) :
    ∃ plan ready, Planned file source disk plan ready ∧
      (disk.store.resolve plan.target = .ok place ∨
        options.backup = true ∧ disk.store.resolve (backupPath plan.target) = .ok place) := by
  cases effect with
  | kept kept _ => exact absurd (by rw [kept.store]) differs
  | backedUp planned _ _ _ backed => exact ⟨_, _, planned, .inr (backed.others place differs)⟩
  | @written plan ready saved _ planned _ _ backed done _ =>
      refine ⟨plan, ready, planned, ?_⟩
      by_cases here : saved.store.resolve plan.target = .ok place
      · exact .inl ((backed.resolve _ _).1 here)
      · rw [Store.get?_of_put done here] at differs
        exact .inr (backed.others place differs)

theorem changes (effect : Effect file source options disk status after) (fresh : disk.changes = []) :
    ∀ change ∈ after.changes, ∃ plan ready, Planned file source disk plan ready ∧
      (options.backup = true ∧ change = .copied plan.target (backupPath plan.target) ∨
        change = .written plan.target plan.report.buffer.toUTF8) := by
  intro change made
  cases effect with
  | kept kept _ =>
      rw [kept.changes, fresh] at made
      cases made
  | backedUp planned _ _ _ backed =>
      exact ⟨_, _, planned, .inl (backed.mem_changes fresh made)⟩
  | written planned _ _ backed _ changes =>
      refine ⟨_, _, planned, ?_⟩
      rw [changes, List.mem_append, List.mem_singleton] at made
      exact made.imp_left (backed.mem_changes fresh)

theorem overwritten_iff (effect : Effect file source options disk status after)
    (fresh : disk.changes = []) :
    (∃ plan ready, Planned file source disk plan ready ∧ Overwritten plan after) ↔
      status = 0 ∧ options.dryRun = false := by
  cases effect with
  | kept kept other =>
      constructor
      · rintro ⟨_, _, _, made, _⟩
        rw [kept.changes, fresh] at made
        cases made
      · rintro ⟨zero, wet⟩
        rcases other with failed | dry
        · exact absurd zero failed
        · cases wet.symm.trans dry
  | backedUp planned _ _ failed backed =>
      constructor
      · rintro ⟨_, _, _, made, _⟩
        cases (backed.mem_changes fresh made).2
      · rintro ⟨zero, _⟩
        exact absurd zero failed
  | written planned wet _ _ done changes =>
      refine iff_of_true ⟨_, _, planned, ?_, Store.read_of_put done⟩ ⟨rfl, wet⟩
      rw [changes]
      exact List.mem_append_right _ (List.mem_singleton.2 rfl)

end Effect

/-- The status of `apply` tells the truth about what it did to files, whatever the files are and
whichever operation on them fails. -/
theorem runApply_truthful (console : Console) (file : Option String) (source : RuleSource)
    (options : ApplyOptions) (store : Store) (fault? : Nat → Option FileError) :
    Truthful file source options (.fresh store fault?)
      (runApply (m := StateM Disk) console file source options (.fresh store fault?)).1.status
      (runApply (m := StateM Disk) console file source options (.fresh store fault?)).2 := by
  cases ran : runApply (m := StateM Disk) console file source options (.fresh store fault?) with
  | mk response after =>
      have course := course_of_runApply ran
      have effect := course.effect
      exact {
        zero := course.zero_iff
        overwritten := effect.overwritten_iff rfl
        intact := fun failed _ _ _ performed chosen => effect.intact failed performed chosen
        changes := effect.changes rfl
        others := fun _ differs => effect.others differs
        nothing := effect.kept_of_nothing }

/-- A run whose backup is made and whose file cannot be written. -/
example :
    let text := "[[rules]]\nid = \"a\"\ntype = \"literal\"\nold = \"x\"\nnew = \"y\"\n"
    let store : Store :=
      ⟨[(["rules"], .file text.toUTF8 true), (["file"], .file "x".toUTF8 true)]⟩
    let ran := runApply (m := StateM Disk) ⟨false, 0⟩ (some "file") (.file "rules")
      ⟨false, false, true, false, true⟩
      (.fresh store fun number => if number = 3 then some .permissionDenied else none)
    ran.1.status = 1 ∧ ran.2.changes = [.copied "file" "file.orig"] := by decide +kernel

end Emend.Command
