import Emend.Command.Basic
import Emend.Proofs.BackupPlace
import Emend.Proofs.Disk

/-! # Backups

A backup is a copy that stands next to the file. Taking one changes nothing else, so the file
behind it is the file before it.
-/

namespace Emend

section Snapshot

variable {ready after : Disk} {target : String}

theorem kept_of_snapshot_error {e : PatchError}
    (failed : snapshot (m := StateM Disk) target ready = (.error e, after)) : ready.Kept after := by
  obtain ⟨result, middle, performed, rest⟩ := bind_eq_iff.1 failed
  cases result with
  | error cause =>
      cases rest
      exact Disk.kept_of_alter_error performed
  | ok _ => cases rest

theorem copy_of_snapshot_ok {path : String}
    (done : snapshot (m := StateM Disk) target ready = (.ok path, after)) :
    ready.store.copy target (backupPath target) = .ok after.store ∧
      after.changes = ready.changes ++ [.copied target (backupPath target)] := by
  obtain ⟨result, middle, performed, rest⟩ := bind_eq_iff.1 done
  cases result with
  | error cause => cases rest
  | ok _ =>
      cases rest
      exact Disk.alter_ok performed

theorem path_of_snapshot_ok {path : String}
    (done : snapshot (m := StateM Disk) target ready = (.ok path, after)) :
    path = backupPath target := by
  obtain ⟨result, middle, performed, rest⟩ := bind_eq_iff.1 done
  cases result <;> cases rest
  rfl

end Snapshot

namespace Command

variable {disk ready again after : Disk}

/-- What taking a backup has done, if it was wanted. -/
structure BackedUp (wanted : Bool) (target : String) (ready after : Disk) : Prop where
  /-- No path leads to another place than before. -/
  resolve : ∀ path place,
    after.store.resolve path = .ok place ↔ ready.store.resolve path = .ok place
  /-- The file has not been touched. -/
  read : after.store.read target = ready.store.read target
  /-- Every place but that of the backup has what it had. -/
  others : ∀ place, after.store.get? place ≠ ready.store.get? place →
    wanted = true ∧ ready.store.resolve (backupPath target) = .ok place
  changes : after.changes =
    ready.changes ++ if wanted then [.copied target (backupPath target)] else []

theorem BackedUp.of_kept {wanted : Bool} {target : String} (done : BackedUp wanted target ready again)
    (before : disk.Kept ready) (behind : again.Kept after) : BackedUp wanted target disk after := by
  obtain ⟨resolve, read, others, changes⟩ := done
  rw [before.store] at resolve read others
  rw [before.changes] at changes
  rw [← behind.store] at resolve read others
  rw [← behind.changes] at changes
  exact ⟨resolve, read, others, changes⟩

theorem BackedUp.mem_changes {wanted : Bool} {target : String} {change : Change}
    (done : BackedUp wanted target ready after) (fresh : ready.changes = [])
    (made : change ∈ after.changes) :
    wanted = true ∧ change = .copied target (backupPath target) := by
  rw [done.changes, fresh] at made
  cases wanted with
  | false => cases made
  | true => exact ⟨rfl, List.mem_singleton.1 made⟩

section Backup

variable {wanted : Bool} {target : String}

theorem backedUp_of_snapshot_ok {path : String}
    (done : snapshot (m := StateM Disk) target ready = (.ok path, after)) :
    BackedUp true target ready after := by
  obtain ⟨copied, changes⟩ := copy_of_snapshot_ok done
  obtain ⟨place, bytes, writable, resolved, found, put⟩ := Store.copy_eq_ok_iff.1 copied
  have held : ready.store.read target = .ok bytes :=
    Store.read_eq_ok_iff.2 ⟨place, writable, resolved, found⟩
  -- This is what keeps the file: the copy goes to another place.
  have apart : ∀ other, ready.store.resolve target = .ok other →
      ready.store.resolve (backupPath target) ≠ .ok other := by
    intro other same
    cases resolved.symm.trans same
    exact Store.resolve_backupPath_ne resolved found
  exact {
    resolve := fun _ _ => Store.resolve_of_put put
    read := by rw [held, Store.read_of_put_elsewhere put apart held]
    others := fun other differs => ⟨rfl, Classical.byContradiction fun elsewhere =>
      differs (Store.get?_of_put put elsewhere)⟩
    changes := changes }

theorem backup_eq_iff {result : Except PatchError (Option String)} :
    backup (m := StateM Disk) true target ready = (result, after) ↔
      ∃ copied, snapshot (m := StateM Disk) target ready = (copied, after) ∧
        result = copied.map some := by
  constructor
  · intro done
    obtain ⟨copied, _, performed, rest⟩ := bind_eq_iff.1 done
    cases rest
    exact ⟨copied, performed, rfl⟩
  · rintro ⟨copied, performed, rfl⟩
    exact bind_eq_iff.2 ⟨copied, after, performed, rfl⟩

theorem snapshot_of_backup_ok {path? : Option String}
    (done : backup (m := StateM Disk) true target ready = (.ok path?, after)) :
    ∃ path, snapshot (m := StateM Disk) target ready = (.ok path, after) := by
  obtain ⟨copied, performed, shape⟩ := backup_eq_iff.1 done
  cases copied with
  | error e => cases shape
  | ok path => exact ⟨path, performed⟩

theorem kept_of_backup_error {e : PatchError}
    (failed : backup (m := StateM Disk) wanted target ready = (.error e, after)) :
    ready.Kept after := by
  cases wanted with
  | false => cases failed
  | true =>
      obtain ⟨copied, performed, shape⟩ := backup_eq_iff.1 failed
      cases copied with
      | error e => exact kept_of_snapshot_error performed
      | ok path => cases shape

theorem backedUp_of_backup_ok {path? : Option String}
    (done : backup (m := StateM Disk) wanted target ready = (.ok path?, after)) :
    BackedUp wanted target ready after := by
  cases wanted with
  | false =>
      cases done
      exact ⟨fun _ _ => .rfl, rfl, fun _ differs => absurd rfl differs, by simp⟩
  | true =>
      obtain ⟨path, performed⟩ := snapshot_of_backup_ok done
      exact backedUp_of_snapshot_ok performed

end Backup

end Command

end Emend
