import Emend.Proofs.Disk
import Emend.RuleFile.Load

/-! # Rule files on disks

A rule file is loaded as its text is read, and the path is put into the error afterwards. Errors of
a text have no path yet, so that this reaches all of them, and it changes nothing else about them.
-/

namespace Emend

namespace Files

theorem decode_eq_ok_iff {bytes : ByteArray} {text : String} :
    decode bytes = .ok text ↔ bytes = text.toUTF8 := by
  constructor
  · intro decoded
    exact (toUTF8_of_decode decoded).symm
  · rintro rfl
    have found : String.fromUTF8? text.toUTF8 = some text :=
      dif_pos text.isValidUTF8
    simp only [decode, found]

theorem exists_readText_eq (path : String) (disk : Disk) :
    ∃ read after, readText (m := StateM Disk) path disk = (read, after) ∧ disk.Kept after ∧
      ∀ text, read = .ok text ↔
        disk.fault? disk.clock = none ∧ disk.store.read path = .ok text.toUTF8 := by
  cases fault : disk.fault? disk.clock with
  | some cause =>
      have performed : Disk.inspect (·.read path) disk = (.error cause, disk.next) := by
        simp only [Disk.inspect, fault]
      exact ⟨.error cause, disk.next, bind_eq_iff.2 ⟨_, _, performed, rfl⟩, ⟨rfl, rfl⟩, by simp⟩
  | none =>
      have performed : Disk.inspect (·.read path) disk = (disk.store.read path, disk.next) := by
        simp only [Disk.inspect, fault]
      refine ⟨_, disk.next, bind_eq_iff.2 ⟨_, _, performed, rfl⟩, ⟨rfl, rfl⟩, ?_⟩
      intro text
      cases disk.store.read path with
      | error cause => simp [Except.bind]
      | ok bytes => simp [Except.bind, decode_eq_ok_iff]

end Files

namespace LoadError

def path? : LoadError → Option String
  | .unreadable path _ => some path
  | .malformed path _ _ => path
  | .misshapen path _ _ => path
  | .invalid path _ => path

/-- An error of a text, and the error of the file that holds this text. They are of one kind and
have the same behind them; only the second one has a path. -/
inductive OfFile (path : String) : LoadError → LoadError → Prop where
  | malformed (text : String) (fault : Toml.Fault) :
      OfFile path (.malformed none text fault) (.malformed (some path) text fault)
  | misshapen (text : String) (mismatch : Toml.Mismatch) :
      OfFile path (.misshapen none text mismatch) (.misshapen (some path) text mismatch)
  | invalid (issues : List Issue) : OfFile path (.invalid none issues) (.invalid (some path) issues)

variable {path : String} {bare e : LoadError}

theorem ofFile_iff : OfFile path bare e ↔ bare.path? = none ∧ e = bare.withPath path := by
  constructor
  · intro located
    cases located <;> exact ⟨rfl, rfl⟩
  · rintro ⟨absent, rfl⟩
    cases bare with
    | unreadable path reason => cases absent
    | malformed path text fault =>
        cases absent
        exact .malformed text fault
    | misshapen path text mismatch =>
        cases absent
        exact .misshapen text mismatch
    | invalid path issues =>
        cases absent
        exact .invalid issues

theorem OfFile.path?_eq (located : OfFile path bare e) : e.path? = some path := by
  cases located <;> rfl

end LoadError

namespace RuleFile

variable {path text : String} {file : RuleFile} {e : LoadError}

theorem decode_of_fault {fault : Toml.Fault} (read : Toml.Document.read text = .error fault) :
    decode text = .error (.malformed none text fault) := by
  unfold decode
  rw [read]

section OfDocument

variable {document : Toml.Table Toml.Node} (read : Toml.Document.read text = .ok document)
include read

theorem decode_of_mismatch {mismatch : Toml.Mismatch}
    (shaped : ofDocument document = .error mismatch) :
    decode text = .error (.misshapen none text mismatch) := by
  unfold decode
  simp only [read, shaped]
  rfl

theorem decode_of_document (shaped : ofDocument document = .ok file) : decode text = .ok file := by
  unfold decode
  simp only [read, shaped]
  rfl

end OfDocument

/-- A text is refused for the fault with which reading it as a document ends, or for the first
mismatch of the document with the shape of a rule file. The error has the text and what is wrong
with it. -/
theorem decode_eq_error_iff :
    decode text = .error e ↔
      (∃ fault, Toml.Document.read text = .error fault ∧ e = .malformed none text fault) ∨
      ∃ document mismatch, Toml.Document.read text = .ok document ∧
        ofDocument document = .error mismatch ∧ e = .misshapen none text mismatch := by
  cases read : Toml.Document.read text with
  | error fault => simp [decode_of_fault read, eq_comm]
  | ok document =>
      cases shaped : ofDocument document with
      | error mismatch => simp [decode_of_mismatch read shaped, shaped, eq_comm]
      | ok file => simp [decode_of_document read shaped, shaped]

/-- A text that can be decoded is refused for all issues of its rules. -/
theorem ofText_eq_error_iff :
    ofText text = .error e ↔
      decode text = .error e ∨
      ∃ file issues, decode text = .ok file ∧ file.validate = .error issues ∧
        e = .invalid none issues := by
  unfold ofText
  cases decode text with
  | error refused => simp
  | ok file =>
      cases checked : file.validate with
      | error issues => simp [checked, eq_comm]
      | ok _ => simp [checked]

theorem path?_of_ofText_error (failed : ofText text = .error e) : e.path? = none := by
  rcases ofText_eq_error_iff.1 failed with refused | ⟨_, _, _, _, rfl⟩
  · rcases decode_eq_error_iff.1 refused with ⟨_, _, rfl⟩ | ⟨_, _, _, _, rfl⟩ <;> rfl
  · rfl

theorem ofRead_of_ok (accepted : ofText text = .ok file) : ofRead path (.ok text) = .ok file := by
  rw [ofRead, accepted]
  rfl

theorem ofRead_of_error {bare : LoadError} (refused : ofText text = .error bare) :
    ofRead path (.ok text) = .error (bare.withPath path) := by
  rw [ofRead, refused]
  rfl

theorem ofRead_ok_eq_ok_iff : ofRead path (.ok text) = .ok file ↔ ofText text = .ok file := by
  cases checked : ofText text with
  | ok file' => rw [ofRead_of_ok checked]
  | error bare => simp [ofRead_of_error checked]

theorem ofRead_ok_eq_error_iff :
    ofRead path (.ok text) = .error e ↔
      ∃ bare, ofText text = .error bare ∧ LoadError.OfFile path bare e := by
  cases checked : ofText text with
  | ok file => simp [ofRead_of_ok checked]
  | error bare =>
      have absent := path?_of_ofText_error checked
      simp [ofRead_of_error checked, LoadError.ofFile_iff, absent, eq_comm]

theorem path?_of_ofRead_error {read : Except FileError String}
    (failed : ofRead path read = .error e) : e.path? = some path := by
  cases read with
  | error reason =>
      cases failed
      rfl
  | ok text =>
      obtain ⟨bare, _, located⟩ := ofRead_ok_eq_error_iff.1 failed
      exact located.path?_eq

/-- What loading a rule file comes to, given what reading the file came to. -/
structure Loaded (path : String) (read : Except FileError String)
    (result : Except LoadError RuleFile) : Prop where
  /-- A file that cannot be read as a text is reported with its path and the cause. -/
  unread : ∀ reason, read = .error reason → result = .error (.unreadable path reason)
  /-- A file is accepted as its text is. -/
  accepted : ∀ text, read = .ok text → ∀ file, result = .ok file ↔ ofText text = .ok file
  /-- A file is refused as its text is, and the error has the path in addition. -/
  refused : ∀ text, read = .ok text → ∀ e, result = .error e ↔
    ∃ bare, ofText text = .error bare ∧ LoadError.OfFile path bare e
  /-- The fault of a text that is no document is handed on as it is. -/
  malformed : ∀ text fault, read = .ok text → Toml.Document.read text = .error fault →
    ofText text = .error (.malformed none text fault) ∧
      result = .error (.malformed (some path) text fault)
  located : ∀ e, result = .error e → e.path? = some path

theorem loaded_ofRead (path : String) (read : Except FileError String) :
    Loaded path read (ofRead path read) where
  unread := by
    rintro reason rfl
    rfl
  accepted := by
    rintro text rfl file
    exact ofRead_ok_eq_ok_iff
  refused := by
    rintro text rfl e
    exact ofRead_ok_eq_error_iff
  malformed := by
    rintro text fault rfl ended
    have refused := ofText_eq_error_iff.2 (.inl (decode_of_fault ended))
    exact ⟨refused, ofRead_of_error refused⟩
  located := fun _ failed => path?_of_ofRead_error failed

/-- Loading a path is reading it and taking its text for a rule file, with the path in every error.
The rule set of a path is loaded in the same cases, and its errors are the same. Neither changes a
file. -/
theorem load_path_as_text (path : String) (disk : Disk) :
    ∃ read result after,
      Files.readText (m := StateM Disk) path disk = (read, after) ∧
      (∀ text, read = .ok text ↔
        disk.fault? disk.clock = none ∧ disk.store.read path = .ok text.toUTF8) ∧
      load (m := StateM Disk) path disk = (result, after) ∧
      Loaded path read result ∧
      RuleSet.load (m := StateM Disk) path disk = (result.map toRuleSet, after) ∧
      disk.Kept after := by
  obtain ⟨read, after, performed, kept, held⟩ := Files.exists_readText_eq path disk
  have loaded : load (m := StateM Disk) path disk = (ofRead path read, after) :=
    bind_eq_iff.2 ⟨read, after, performed, rfl⟩
  exact ⟨read, _, after, performed, held, loaded, loaded_ofRead path read,
    bind_eq_iff.2 ⟨_, after, loaded, rfl⟩, kept⟩

end RuleFile

end Emend
