import Emend.Patch
import Emend.Store

/-! # Places behind paths

A file that is written changes what is at one place of a store and nothing else. In
particular it does not change where any path leads, since paths lead through directories.
The backup of a file has a place of its own: it stands next to the file under a longer name.
-/

namespace Emend

namespace Store

variable {store after : Store} {place other start : Location} {item : Item} {path : String}
  {bytes : ByteArray} {writable : Bool}

theorem lookup_filter_ne (items : List (Location × Item)) (different : other ≠ place) :
    (items.filter fun entry => entry.1 != place).lookup other = items.lookup other := by
  induction items with
  | nil => rfl
  | cons entry rest ih =>
      obtain ⟨key, item⟩ := entry
      by_cases same : key = place
      · have missed : (other == key) = false := by simpa [same] using different
        simp only [same, List.filter_cons, bne_self_eq_false, Bool.false_eq_true, if_false, ih]
        rw [List.lookup_cons, ← same, missed]
      · have kept : (key != place) = true := by simpa using same
        simp only [List.filter_cons, kept, if_true, List.lookup_cons, ih]

theorem get?_set_self (inside : place.isAbove = false) :
    (store.set place item).get? place = some item := by
  simp [get?, set, inside]

theorem get?_set_other (different : other ≠ place) :
    (store.set place item).get? other = store.get? other := by
  have missed : (other == place) = false := by simpa using different
  simp only [get?, set, List.lookup_cons, missed, lookup_filter_ne _ different]

theorem isAbove_eq_false (free : store.get? place ≠ some .directory) : place.isAbove = false := by
  cases above : place.isAbove with
  | false => rfl
  | true => simp [get?, above] at free

/-- Paths lead through directories, so a file does not change where names lead. -/
theorem walk_set_eq_ok_iff (free : store.get? place ≠ some .directory) {names : List String} :
    (store.set place (.file bytes writable)).walk start names = .ok other ↔
      store.walk start names = .ok other := by
  induction names generalizing start with
  | nil => rfl
  | cons name names ih =>
      by_cases same : start = place
      -- A name cannot be followed from the place of the file, neither before nor behind.
      · subst same
        constructor
        · intro walked
          simp [walk, get?_set_self (isAbove_eq_false free)] at walked
        · intro walked
          simp only [walk] at walked
          split at walked
          · cases walked
          · cases walked
          · contradiction
      · simp only [walk, get?_set_other same]
        split
        · rfl
        · rfl
        · split
          · rfl
          · exact ih

theorem resolve_set_eq_ok_iff (free : store.get? place ≠ some .directory) :
    (store.set place (.file bytes writable)).resolve path = .ok other ↔
      store.resolve path = .ok other := by
  simp only [resolve]
  split
  · rfl
  · split
    · rfl
    · split
      · rfl
      · exact walk_set_eq_ok_iff free

theorem read_eq_ok_iff :
    store.read path = .ok bytes ↔
      ∃ place writable, store.resolve path = .ok place ∧
        store.get? place = some (.file bytes writable) := by
  cases resolved : store.resolve path with
  | error e => simp [read, resolved]
  | ok place =>
      cases found : store.get? place with
      | none => simp [read, resolved, found]
      | some item =>
          cases item with
          | directory => simp [read, resolved, found]
          | file kept writable =>
              simp only [read, resolved, found]
              constructor
              · intro same
                cases same
                exact ⟨place, writable, rfl, found⟩
              · rintro ⟨_, _, same, holds⟩
                cases same
                cases found.symm.trans holds
                rfl

theorem put_eq_ok_iff :
    store.put path bytes writable = .ok after ↔
      ∃ place, store.resolve path = .ok place ∧ store.get? place ≠ some .directory ∧
        (∀ old, store.get? place ≠ some (.file old false)) ∧
        after = store.set place (.file bytes writable) := by
  cases resolved : store.resolve path with
  | error e => simp [put, resolved]
  | ok place =>
      cases found : store.get? place with
      | none => simp [put, resolved, found, eq_comm]
      | some item =>
          cases item with
          | directory => simp [put, resolved, found]
          | file old writable => cases writable <;> simp [put, resolved, found, eq_comm]

theorem copy_eq_ok_iff {source destination : String} :
    store.copy source destination = .ok after ↔
      ∃ place bytes writable, store.resolve source = .ok place ∧
        store.get? place = some (.file bytes writable) ∧
        store.put destination bytes writable = .ok after := by
  cases resolved : store.resolve source with
  | error e => simp [copy, resolved]
  | ok place =>
      cases found : store.get? place with
      | none => simp [copy, resolved, found]
      | some item =>
          cases item with
          | directory => simp [copy, resolved, found]
          | file kept writable =>
              simp only [copy, resolved, found]
              constructor
              · intro done
                exact ⟨place, kept, writable, rfl, found, done⟩
              · rintro ⟨_, _, _, same, holds, done⟩
                cases same
                cases found.symm.trans holds
                exact done

/-! ## What a file that is put somewhere changes -/

section Put

variable (done : store.put path bytes writable = .ok after)
include done

theorem get?_of_put (elsewhere : store.resolve path ≠ .ok other) :
    after.get? other = store.get? other := by
  obtain ⟨place, resolved, _, _, rfl⟩ := put_eq_ok_iff.1 done
  apply get?_set_other
  rintro rfl
  exact elsewhere resolved

theorem resolve_of_put {way : String} :
    after.resolve way = .ok other ↔ store.resolve way = .ok other := by
  obtain ⟨place, _, free, _, rfl⟩ := put_eq_ok_iff.1 done
  exact resolve_set_eq_ok_iff free

theorem read_of_put : after.read path = .ok bytes := by
  obtain ⟨place, resolved, free, _, rfl⟩ := put_eq_ok_iff.1 done
  exact read_eq_ok_iff.2 ⟨place, writable, (resolve_set_eq_ok_iff free).2 resolved,
    get?_set_self (isAbove_eq_false free)⟩

theorem read_of_put_elsewhere {way : String} {kept : ByteArray}
    (apart : ∀ place, store.resolve way = .ok place → store.resolve path ≠ .ok place)
    (held : store.read way = .ok kept) : after.read way = .ok kept := by
  obtain ⟨place, writable, resolved, found⟩ := read_eq_ok_iff.1 held
  refine read_eq_ok_iff.2 ⟨place, writable, (resolve_of_put done).2 resolved, ?_⟩
  rw [get?_of_put done (apart place resolved), found]

end Put

end Store

end Emend
