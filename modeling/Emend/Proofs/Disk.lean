import Emend.Proofs.Places

/-! # Disks

A disk is a store whose operations can also fail for causes that do not lie in its files, such
as a device without room, and which keeps account of what has been changed on it. An operation
succeeds whole, as on the store, or it changes nothing.
-/

namespace Emend

/-- What a program has done, its first part and the rest have done one after the other. -/
theorem bind_eq_iff {σ α β : Type} {first : StateM σ α} {rest : α → StateM σ β} {before after : σ}
    {result : β} :
    (first >>= rest) before = (result, after) ↔
      ∃ value middle, first before = (value, middle) ∧ rest value middle = (result, after) := by
  cases performed : first before with
  | mk value middle =>
      simp only [bind, StateT.bind, performed]
      constructor
      · intro done
        exact ⟨value, middle, rfl, done⟩
      · rintro ⟨_, _, same, done⟩
        cases same
        exact done

/-- A change that an operation has made. -/
inductive Change where
  /-- A file was given bytes. -/
  | written (path : String) (bytes : ByteArray)
  /-- A file was given the bytes of another. -/
  | copied (source destination : String)

instance : DecidableEq Change
  | .written path bytes, .written path' bytes' =>
      decidable_of_iff (path = path' ∧ bytes.data = bytes'.data) (by
        cases bytes
        cases bytes'
        simp)
  | .copied source destination, .copied source' destination' =>
      decidable_of_iff (source = source' ∧ destination = destination') (by simp)
  | .written .., .copied .. => isFalse nofun
  | .copied .., .written .. => isFalse nofun

/-- A store with the faults that are to come and the changes that have been made. -/
structure Disk where
  store : Store
  /-- The cause for which the operation with a number fails, if there is one. -/
  fault? : Nat → Option FileError
  /-- The number of the next operation. -/
  clock : Nat
  /-- The changes, from the first on. -/
  changes : List Change

namespace Disk

def fresh (store : Store) (fault? : Nat → Option FileError) : Disk := ⟨store, fault?, 0, []⟩

/-- The disk behind an operation that changes nothing. -/
def next (disk : Disk) : Disk := { disk with clock := disk.clock + 1 }

/-- Looks at the store, unless there is a fault. -/
def inspect {α : Type} (view : Store → Except FileError α) : StateM Disk (Except FileError α) :=
  fun disk =>
    match disk.fault? disk.clock with
    | some cause => (.error cause, disk.next)
    | none => (view disk.store, disk.next)

/-- Changes the store, unless there is a fault, and takes down the change. -/
def alter (change : Change) (f : Store → Except FileError Store) :
    StateM Disk (Except FileError Unit) :=
  fun disk =>
    match disk.fault? disk.clock with
    | some cause => (.error cause, disk.next)
    | none =>
        match f disk.store with
        | .error cause => (.error cause, disk.next)
        | .ok store =>
            (.ok (), { disk.next with store := store, changes := disk.changes ++ [change] })

instance : Files (StateM Disk) where
  read path := inspect (·.read path)
  write path bytes := alter (.written path bytes) (·.write path bytes)
  copy source destination := alter (.copied source destination) (·.copy source destination)

/-- Nothing has been changed between two states of a disk. -/
structure Kept (disk after : Disk) : Prop where
  store : after.store = disk.store
  changes : after.changes = disk.changes

variable {disk middle after : Disk}

theorem Kept.trans (first : disk.Kept middle) (second : middle.Kept after) : disk.Kept after :=
  ⟨second.store.trans first.store, second.changes.trans first.changes⟩

theorem inspect_spec {α : Type} {view : Store → Except FileError α} {result : Except FileError α}
    (done : inspect view disk = (result, after)) :
    disk.Kept after ∧ ∀ value, result = .ok value → view disk.store = .ok value := by
  simp only [inspect] at done
  split at done <;> cases done
  · exact ⟨⟨rfl, rfl⟩, nofun⟩
  · exact ⟨⟨rfl, rfl⟩, fun _ same => same⟩

section Alter

variable {change : Change} {f : Store → Except FileError Store}

theorem kept_of_alter_error {cause : FileError}
    (failed : alter change f disk = (.error cause, after)) : disk.Kept after := by
  simp only [alter] at failed
  split at failed
  · cases failed
    exact ⟨rfl, rfl⟩
  · split at failed <;> cases failed
    exact ⟨rfl, rfl⟩

theorem alter_ok (done : alter change f disk = (.ok (), after)) :
    f disk.store = .ok after.store ∧ after.changes = disk.changes ++ [change] := by
  simp only [alter] at done
  split at done
  · cases done
  · split at done <;> cases done
    exact ⟨‹_›, rfl⟩

end Alter

end Disk

namespace Files

theorem toUTF8_of_decode {bytes : ByteArray} {text : String} (decoded : decode bytes = .ok text) :
    text.toUTF8 = bytes := by
  simp only [decode, String.fromUTF8?] at decoded
  split at decoded
  · next same =>
      split at same <;> cases same
      cases decoded
      rfl
  · cases decoded

variable {disk after : Disk} {path : String}

theorem readText_spec {result : Except FileError String}
    (done : readText (m := StateM Disk) path disk = (result, after)) :
    disk.Kept after ∧
      ∀ text, result = .ok text → disk.store.read path = .ok text.toUTF8 := by
  obtain ⟨bytes, middle, performed, rest⟩ := bind_eq_iff.1 done
  obtain ⟨kept, held⟩ := Disk.inspect_spec performed
  cases rest
  refine ⟨kept, ?_⟩
  intro text decoded
  cases bytes with
  | error cause => cases decoded
  | ok bytes => rw [held bytes rfl, toUTF8_of_decode decoded]

end Files

end Emend
