import Emend.Proofs.Places
import Emend.Proofs.TextPieces

/-! # The place of a backup

The path of a backup is that of the file with an ending behind it, so both walk through the
same directories and differ in the last name only. That name is a proper one, as no file
stands where a walk has come from; with the ending it is another proper name.
-/

namespace Emend.Store

variable {store : Store} {place start target : Location} {name : String}

theorem walk_append {names more : List String} :
    store.walk start (names ++ more) =
      (store.walk start names).bind fun place => store.walk place more := by
  induction names generalizing start with
  | nil => rfl
  | cons name names ih =>
      simp only [List.cons_append, walk, ih]
      split
      · rfl
      · rfl
      · split <;> rfl

theorem walk_concat_eq_ok {names : List String}
    (walked : store.walk start (names ++ [name]) = .ok target) :
    ∃ place, store.walk start names = .ok place ∧ store.get? place = some .directory ∧
      target = follow place name := by
  rw [walk_append] at walked
  cases reached : store.walk start names with
  | error e =>
      rw [reached] at walked
      cases walked
  | ok place =>
      rw [reached, Except.bind] at walked
      simp only [walk] at walked
      split at walked
      · cases walked
      · cases walked
      · next found =>
          split at walked <;> cases walked
          exact ⟨place, rfl, found, rfl⟩

theorem walk_of_resolve {path : String} (resolved : store.resolve path = .ok place) :
    path ≠ "" ∧ store.walk (origin path) (names path) = .ok place := by
  simp only [resolve] at resolved
  split at resolved
  · cases resolved
  · split at resolved
    · cases resolved
    · split at resolved
      · cases resolved
      · next filled => exact ⟨filled, resolved⟩

/-- Names that can be those of files. -/
def IsProper (name : String) : Prop := name ≠ "" ∧ name ≠ "." ∧ name ≠ ".."

theorem follow_of_isProper (proper : IsProper name) : follow place name = place ++ [name] := by
  simp [follow, proper.1, proper.2.1, proper.2.2]

/-- Whether a store has directories at all places on the way to a place. -/
def Reaches (store : Store) (place : Location) : Prop :=
  ∀ front, front <+: place → front ≠ place → store.get? front = some .directory

namespace Reaches

theorem origin (path : String) : store.Reaches (origin path) := by
  intro front before different
  have nowhere : front = [] := by
    unfold Store.origin at before different
    split at before <;> simp_all [List.prefix_cons_iff]
  rw [nowhere]
  rfl

theorem of_prefix (reached : store.Reaches place) (found : store.get? place = some .directory)
    {front : Location} (before : front <+: place) : store.get? front = some .directory := by
  by_cases same : front = place
  · rw [same, found]
  · exact reached front before same

theorem concat (reached : store.Reaches place) (found : store.get? place = some .directory)
    (name : String) : store.Reaches (place ++ [name]) := by
  intro front before different
  rcases List.prefix_concat_iff.1 before with same | inner
  · exact absurd same different
  · exact reached.of_prefix found inner

theorem follow (reached : store.Reaches place) (found : store.get? place = some .directory)
    (name : String) : store.Reaches (follow place name) := by
  unfold Store.follow
  split
  · exact reached
  · split
    · split
      · exact reached
      · split
        · exact reached.concat found ".."
        · intro front before _
          exact reached.of_prefix found (before.trans (List.dropLast_prefix place))
    · exact reached.concat found name

theorem walk (reached : store.Reaches start) {names : List String}
    (walked : store.walk start names = .ok target) : store.Reaches target := by
  induction names generalizing start with
  | nil =>
      cases walked
      exact reached
  | cons name names ih =>
      simp only [Store.walk] at walked
      split at walked
      · cases walked
      · cases walked
      · next found =>
          split at walked
          · cases walked
          · exact ih (reached.follow found name) walked

theorem isProper_of_file (reached : store.Reaches place)
    (found : store.get? place = some .directory) {bytes : ByteArray} {writable : Bool}
    (file : store.get? (Store.follow place name) = some (.file bytes writable)) :
    IsProper name := by
  have directory {front : Location} (before : front <+: place) :
      store.get? front ≠ some (.file bytes writable) := by
    simp [reached.of_prefix found before]
  refine ⟨?_, ?_, ?_⟩ <;> rintro rfl
  · exact directory (List.prefix_refl place) file
  · exact directory (List.prefix_refl place) file
  · simp only [Store.follow, String.reduceEq, decide_false, Bool.or_self, Bool.false_eq_true,
      if_false, if_true] at file
    split at file
    · exact directory (List.prefix_refl place) file
    · split at file
      · next outside above =>
          have dots : ∀ step ∈ place, step = ".." := by
            simpa [Location.isAbove, outside] using above
          have higher : Location.isAbove (place ++ [".."]) = true := by
            simpa [Location.isAbove] using Or.inr dots
          simp [get?, higher] at file
      · exact directory (List.dropLast_prefix place) file

end Reaches

/-- The names on the path of a backup are those on the path of the file, but for an ending
behind the last. -/
theorem names_backupPath (path : String) :
    ∃ front last, names path = front ++ [last] ∧
      names (backupPath path) = front ++ [last ++ ".orig"] := by
  have clean : '/' ∉ ".orig".toList := by decide
  obtain ⟨front, last, here, behind⟩ := Text.pieces_singleton_append clean path.toList
  refine ⟨front.map String.ofList, String.ofList last, ?_, ?_⟩
  · simp only [names, here, List.map_append, List.map_cons, List.map_nil]
  · simp only [names, backupPath, String.toList_append, behind, List.map_append, List.map_cons,
      List.map_nil, String.ofList_append, String.ofList_toList]

theorem isProper_append_orig (name : String) : IsProper (name ++ ".orig") := by
  have long : 5 ≤ (name ++ ".orig").length := by
    rw [String.length_append]
    exact Nat.le_add_left 5 _
  refine ⟨?_, ?_, ?_⟩ <;> intro same <;> rw [same] at long <;> exact absurd long (by decide)

theorem origin_backupPath {path : String} (filled : path ≠ "") :
    origin (backupPath path) = origin path := by
  have nonempty : path.toList ≠ [] := by simpa using filled
  obtain ⟨first, rest, shape⟩ := List.exists_cons_of_ne_nil nonempty
  simp only [origin, backupPath, String.toList_append, shape, List.cons_append, List.head?_cons]

/-- The backup of a file stands at another place than the file. -/
theorem resolve_backupPath_ne {path : String} {bytes : ByteArray} {writable : Bool}
    (resolved : store.resolve path = .ok place)
    (file : store.get? place = some (.file bytes writable)) :
    store.resolve (backupPath path) ≠ .ok place := by
  intro same
  obtain ⟨filled, toFile⟩ := walk_of_resolve resolved
  obtain ⟨_, toBackup⟩ := walk_of_resolve same
  obtain ⟨front, last, here, behind⟩ := names_backupPath path
  rw [here] at toFile
  rw [behind, origin_backupPath filled] at toBackup
  obtain ⟨folder, toFolder, found, rfl⟩ := walk_concat_eq_ok toFile
  obtain ⟨folder', toFolder', _, ends⟩ := walk_concat_eq_ok toBackup
  cases toFolder.symm.trans toFolder'
  -- Both stand in this folder, and a file cannot have come there by `.` or `..`.
  have proper := ((Reaches.origin path).walk toFolder).isProper_of_file found file
  rw [follow_of_isProper proper, follow_of_isProper (isProper_append_orig last)] at ends
  have longer : last = last ++ ".orig" := by simpa using ends
  have length := congrArg String.length longer
  rw [String.length_append] at length
  exact absurd length (by simp)

end Emend.Store
