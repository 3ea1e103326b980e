import Emend.Proofs.ApplyCommand
import Mathlib.Logic.Relation

/-! # Backups that stay

Whatever is done with a file behind its backup either changes nothing or puts bytes at the place of
the file. No path leads elsewhere by that, and the backup stands at another place, so it keeps the
bytes that it was given.
-/

namespace Emend

variable {path : String} {disk middle after last : Disk}

/-! ## What can be done with a file -/

/-- One thing done with a file: a plan, a run or the writing of a report, with whatever result. -/
inductive Use (path : String) : Disk → Disk → Prop
  | plan {disk after : Disk} {set : RuleSet} {hints : Bool} {result : Except PatchError Report}
      (done : set.plan (m := StateM Disk) hints path disk = (result, after)) : Use path disk after
  | run {disk after : Disk} {set : RuleSet} {hints : Bool} {result : Except PatchError Report}
      (done : set.run (m := StateM Disk) hints path disk = (result, after)) : Use path disk after
  | write {disk after : Disk} {report : Report} {result : Except PatchError Report}
      (file : report.file = path)
      (done : report.write (m := StateM Disk) disk = (result, after)) : Use path disk after

theorem kept_or_written_of_write {report : Report} {result : Except PatchError Report}
    (done : report.write (m := StateM Disk) disk = (result, after)) :
    disk.Kept after ∨ ∃ bytes, disk.store.write report.file bytes = .ok after.store := by
  cases result with
  | error e => exact .inl (Report.kept_of_write_error done)
  | ok written =>
      obtain ⟨performed, _⟩ := Report.write_eq_ok_iff.1 done
      exact .inr ⟨_, (Files.writeText_ok performed).1⟩

theorem Use.kept_or_written (use : Use path disk after) :
    disk.Kept after ∨ ∃ bytes, disk.store.write path bytes = .ok after.store := by
  cases use with
  | plan done => exact .inl (RuleSet.kept_of_plan done)
  | @run _ _ result done =>
      cases result with
      | error e => exact .inl (RuleSet.kept_of_run_error done)
      | ok report =>
          obtain ⟨plan, ready, planned, carried⟩ := RuleSet.run_eq_ok_iff.1 done
          have kept := RuleSet.kept_of_plan planned
          have file := RuleSet.file_of_plan_ok planned
          rcases kept_or_written_of_write carried with still | ⟨bytes, wrote⟩
          · exact .inl (kept.trans still)
          · rw [file, kept.store] at wrote
            exact .inr ⟨bytes, wrote⟩
  | write file done =>
      rw [← file]
      exact kept_or_written_of_write done

/-! ## A backup that stays -/

/-- A file stands at the path of a backup, and at another place than the file it was taken of. -/
structure Aside (path : String) (place : Location) (item : Item) (disk : Disk) : Prop where
  leads : disk.store.resolve (backupPath path) = .ok place
  apart : disk.store.resolve path ≠ .ok place
  holds : disk.store.get? place = some item

namespace Aside

variable {place : Location} {item : Item}

theorem of_use (aside : Aside path place item disk) (use : Use path disk after) :
    Aside path place item after := by
  obtain ⟨leads, apart, holds⟩ := aside
  rcases use.kept_or_written with kept | ⟨bytes, wrote⟩
  · rw [← kept.store] at leads apart holds
    exact ⟨leads, apart, holds⟩
  · exact {
      leads := (Store.resolve_of_put wrote).2 leads
      apart := fun same => apart ((Store.resolve_of_put wrote).1 same)
      holds := (Store.get?_of_put wrote apart).trans holds }

/-- However long a file is used, its backup stays where and what it is. -/
theorem of_uses (aside : Aside path place item disk)
    (uses : Relation.ReflTransGen (Use path) disk after) : Aside path place item after := by
  induction uses with
  | refl => exact aside
  | tail _ use ih => exact ih.of_use use

end Aside

/-- What a backup that has been taken is worth. -/
structure Preserved (path : String) (disk after : Disk) : Prop where
  /-- Every place but that of the backup has what it had. -/
  others : ∀ place, disk.store.resolve (backupPath path) ≠ .ok place →
    after.store.get? place = disk.store.get? place
  changes : after.changes = disk.changes ++ [.copied path (backupPath path)]
  /-- The file still holds its bytes, which need not be a text. So does the backup, whatever is
  done with the file from here on. -/
  bytes : ∃ bytes, disk.store.read path = .ok bytes ∧ after.store.read path = .ok bytes ∧
    ∀ last, Relation.ReflTransGen (Use path) after last →
      last.store.read (backupPath path) = .ok bytes

theorem exists_aside_of_snapshot_ok {copy : String}
    (done : snapshot (m := StateM Disk) path disk = (.ok copy, after)) :
    ∃ bytes place writable, disk.store.read path = .ok bytes ∧
      Aside path place (.file bytes writable) after := by
  obtain ⟨copied, _⟩ := copy_of_snapshot_ok done
  obtain ⟨origin, bytes, writable, resolved, found, put⟩ := Store.copy_eq_ok_iff.1 copied
  obtain ⟨place, writable', leads, holds⟩ := Store.read_eq_ok_iff.1 (Store.read_of_put put)
  refine ⟨bytes, place, writable', Store.read_eq_ok_iff.2 ⟨origin, writable, resolved, found⟩,
    leads, ?_, holds⟩
  intro same
  -- Both paths would have led here before, but the file and its backup stand apart.
  cases resolved.symm.trans ((Store.resolve_of_put put).1 same)
  exact Store.resolve_backupPath_ne resolved found ((Store.resolve_of_put put).1 leads)

theorem preserved_of_snapshot_ok {copy : String}
    (done : snapshot (m := StateM Disk) path disk = (.ok copy, after)) :
    Preserved path disk after := by
  have backed := Command.backedUp_of_snapshot_ok done
  obtain ⟨bytes, place, writable, held, aside⟩ := exists_aside_of_snapshot_ok done
  refine ⟨?_, backed.changes, bytes, held, backed.read.trans held, ?_⟩
  · intro other elsewhere
    by_contra differs
    exact elsewhere (backed.others other differs).2
  · intro last uses
    obtain ⟨leads, _, holds⟩ := aside.of_uses uses
    exact Store.read_eq_ok_iff.2 ⟨place, writable, leads, holds⟩

/-! ## Backups that `apply` takes -/

namespace Command

variable {file : Option String} {source : RuleSource} {options : ApplyOptions} {ready : Disk}

/-- Where a backup is wanted, nothing is changed unless it is taken first. -/
theorem Course.kept_or_saved {status : Nat} (course : Course file source options disk status after)
    (wanted : options.backup = true) :
    disk.Kept after ∨ ∃ plan ready copy saved, Planned file source disk plan ready ∧
      snapshot (m := StateM Disk) plan.target ready = (.ok copy, saved) ∧
      Use plan.target saved after := by
  have saved {plan : Plan} {ready saved : Disk} {path? : Option String}
      (backed : backup (m := StateM Disk) options.backup plan.target ready = (.ok path?, saved)) :
      ∃ copy, snapshot (m := StateM Disk) plan.target ready = (.ok copy, saved) := by
    rw [wanted] at backed
    exact snapshot_of_backup_ok backed
  cases course with
  | unplanned unplanned kept => exact .inl kept
  | shown planned dry => exact .inl planned.kept
  | refused planned wet refused => exact .inl planned.kept
  | unsaved planned wet passed failed =>
      exact .inl (planned.kept.trans (kept_of_backup_error failed))
  | unwritten planned wet passed backed failed =>
      obtain ⟨copy, performed⟩ := saved backed
      exact .inr ⟨_, _, copy, _, planned, performed, .write planned.file_eq failed⟩
  | written planned wet passed carried =>
      obtain ⟨path?, _, report, backed, wrote⟩ := carried
      obtain ⟨copy, performed⟩ := saved backed
      exact .inr ⟨_, _, copy, _, planned, performed, .write planned.file_eq wrote⟩

/-- What a run of `apply` that takes a backup does to the file is undone by the backup. -/
structure Guarded (file : Option String) (source : RuleSource) (disk after : Disk) : Prop where
  saved : ∀ rules loaded target,
    RuleSource.load (m := StateM Disk) source disk = (.ok rules, loaded) →
    resolveTarget file rules = .ok target →
    after.store.read target ≠ disk.store.read target →
    ∃ bytes, disk.store.read target = .ok bytes ∧
      after.store.read (backupPath target) = .ok bytes
  unsaved : ∀ plan ready e again, Planned file source disk plan ready →
    snapshot (m := StateM Disk) plan.target ready = (.error e, again) → disk.Kept after

theorem Course.guarded {status : Nat} (course : Course file source options disk status after)
    (wanted : options.backup = true) : Guarded file source disk after := by
  rcases course.kept_or_saved wanted with kept | ⟨plan, ready, copy, saved, planned, taken, use⟩
  · refine ⟨fun _ _ target _ _ differs => absurd ?_ differs, fun _ _ _ _ _ _ => kept⟩
    rw [kept.store]
  · constructor
    · intro rules loaded target performed chosen _
      obtain ⟨bytes, held, _, stays⟩ := (preserved_of_snapshot_ok taken).bytes
      rw [planned.kept.store] at held
      obtain ⟨_, performed', chosen', _⟩ := planned
      cases performed.symm.trans performed'
      cases chosen.symm.trans chosen'
      exact ⟨bytes, held, stays _ (.single use)⟩
    · intro other again e last planned' failed
      obtain ⟨rfl, rfl⟩ := planned.unique planned'
      cases taken.symm.trans failed

end Command

/-- A backup protects the file it was taken of. If it cannot be taken, nothing has changed. If it
is, it has the bytes of the file, no other file has changed, and it keeps these bytes whatever is
planned, run or written on the file from here on. So if `apply` takes a backup and then changes
the file, the backup holds what the file held, and without the backup nothing is changed. -/
theorem snapshot_protects (path : String) (disk : Disk) :
    (∀ e after, snapshot (m := StateM Disk) path disk = (.error e, after) → disk.Kept after) ∧
    (∀ copy after, snapshot (m := StateM Disk) path disk = (.ok copy, after) →
      copy = backupPath path ∧ Preserved path disk after) ∧
    (∀ console file source options response after, options.backup = true →
      Command.runApply (m := StateM Disk) console file source options disk = (response, after) →
      Command.Guarded file source disk after) := by
  refine ⟨fun _ _ failed => kept_of_snapshot_error failed, ?_, ?_⟩
  · intro copy after done
    exact ⟨path_of_snapshot_ok done, preserved_of_snapshot_ok done⟩
  · intro console file source options response after wanted ran
    exact (Command.course_of_runApply ran).guarded wanted

/-- A file that is no text has a backup too. -/
example :
    let store : Store := ⟨[(["file"], .file ⟨#[0xff]⟩ true)]⟩
    let taken := snapshot (m := StateM Disk) "file" (.fresh store fun _ => none)
    (taken.2.store.read "file.orig").toOption = some ⟨#[0xff]⟩ := by decide +kernel

end Emend
