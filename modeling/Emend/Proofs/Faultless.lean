import Emend.Command.Basic
import Emend.Proofs.Disk

/-! # Disks without faults

What is shown for disks holds of stores too, since a program does on a disk without faults
what it does on the store there. The operations on files do, and programs are put together
from them.
-/

namespace Emend

/-- A disk has a store and no faults to come. -/
structure Disk.Mirrors (disk : Disk) (store : Store) : Prop where
  store_eq : disk.store = store
  calm : ∀ number, disk.fault? number = none

/-- Two programs do the same on every store and every disk that mirrors it. -/
def Agree {α : Type} (onStore : StateM Store α) (onDisk : StateM Disk α) : Prop :=
  ∀ store disk, disk.Mirrors store → ∃ result after behind,
    onStore store = (result, after) ∧ onDisk disk = (result, behind) ∧ behind.Mirrors after

namespace Agree

variable {α β : Type}

theorem pure (value : α) : Agree (Pure.pure value) (Pure.pure value) := by
  intro store disk mirrors
  exact ⟨value, store, disk, rfl, rfl, mirrors⟩

theorem bind {onStore : StateM Store α} {onDisk : StateM Disk α} {f : α → StateM Store β}
    {g : α → StateM Disk β} (first : Agree onStore onDisk) (rest : ∀ value, Agree (f value) (g value)) :
    Agree (onStore >>= f) (onDisk >>= g) := by
  intro store disk mirrors
  obtain ⟨value, middle, between, ranStore, ranDisk, mirrors⟩ := first store disk mirrors
  obtain ⟨result, after, behind, thenStore, thenDisk, mirrors⟩ := rest value middle between mirrors
  exact ⟨result, after, behind, bind_eq_iff.2 ⟨value, middle, ranStore, thenStore⟩,
    bind_eq_iff.2 ⟨value, between, ranDisk, thenDisk⟩, mirrors⟩

theorem inspect (view : Store → Except FileError α) :
    Agree (fun store => (view store, store)) (Disk.inspect view) := by
  rintro _ disk ⟨rfl, calm⟩
  refine ⟨_, _, disk.next, rfl, ?_, rfl, calm⟩
  simp only [Disk.inspect, calm]

theorem alter (change : Change) (f : Store → Except FileError Store) :
    Agree (Store.change f) (Disk.alter change f) := by
  rintro _ disk ⟨rfl, calm⟩
  cases done : f disk.store with
  | error cause =>
      refine ⟨.error cause, disk.store, disk.next, ?_, ?_, rfl, calm⟩
      · simp only [Store.change, done]
      · simp only [Disk.alter, calm, done]
  | ok store =>
      refine ⟨.ok (), store,
        { disk.next with store := store, changes := disk.changes ++ [change] }, ?_, ?_, rfl, calm⟩
      · simp only [Store.change, done]
      · simp only [Disk.alter, calm, done]

theorem readText (path : String) :
    Agree (Files.readText (m := StateM Store) path) (Files.readText (m := StateM Disk) path) :=
  .bind (.inspect fun store => store.read path) fun _ => .pure _

theorem writeText (path text : String) :
    Agree (Files.writeText (m := StateM Store) path text)
      (Files.writeText (m := StateM Disk) path text) :=
  .alter (.written path text.toUTF8) fun store => store.write path text.toUTF8

end Agree

theorem Report.agree_write (report : Report) :
    Agree (report.write (m := StateM Store)) (report.write (m := StateM Disk)) := by
  refine .bind (.writeText report.file report.buffer) ?_
  intro result
  cases result <;> exact .pure _

theorem RuleSet.agree_plan (set : RuleSet) (hints : Bool) (path : String) :
    Agree (set.plan (m := StateM Store) hints path) (set.plan (m := StateM Disk) hints path) := by
  refine .bind (.readText path) ?_
  intro text
  cases text <;> exact .pure _

theorem RuleSet.agree_run (set : RuleSet) (hints : Bool) (path : String) :
    Agree (set.run (m := StateM Store) hints path) (set.run (m := StateM Disk) hints path) := by
  refine .bind (set.agree_plan hints path) ?_
  intro plan
  cases plan with
  | error e => exact .pure _
  | ok report => exact report.agree_write

theorem agree_snapshot (path : String) :
    Agree (snapshot (m := StateM Store) path) (snapshot (m := StateM Disk) path) := by
  refine .bind (.alter (.copied path (backupPath path)) (·.copy path (backupPath path))) ?_
  intro result
  cases result <;> exact .pure _

namespace Command

variable (console : Console) (file : Option String) (source : RuleSource)

theorem agree_load :
    Agree (RuleSource.load (m := StateM Store) source) (RuleSource.load (m := StateM Disk) source) := by
  cases source with
  | file path =>
      exact .bind (.bind (.bind (.readText path) fun _ => .pure _) fun _ => .pure _) fun _ => .pure _
  | builtIn name =>
      cases found : BuiltIn.find? name <;> simp only [RuleSource.load, found] <;> exact .pure _

theorem agree_prepare :
    Agree (prepare (m := StateM Store) console file source)
      (prepare (m := StateM Disk) console file source) := by
  refine .bind (agree_load source) ?_
  intro loaded
  cases loaded with
  | error failure => exact .pure _
  | ok rules =>
      cases chosen : resolveTarget file rules with
      | error failure => simpa only [chosen] using Agree.pure _
      | ok target => simpa only [chosen] using Agree.bind (.readText target) fun _ => .pure _

theorem agree_backup (wanted : Bool) (target : String) :
    Agree (backup (m := StateM Store) wanted target) (backup (m := StateM Disk) wanted target) := by
  cases wanted with
  | false => exact .pure _
  | true => exact .bind (agree_snapshot target) fun _ => .pure _

theorem agree_carryOut (options : ApplyOptions) (out err : String) (plan : Plan) :
    Agree (carryOut (m := StateM Store) console options out err plan)
      (carryOut (m := StateM Disk) console options out err plan) := by
  refine .bind (agree_backup options.backup plan.target) ?_
  intro saved
  cases saved with
  | error reason => exact .pure _
  | ok path? =>
      refine .bind plan.report.agree_write ?_
      intro written
      cases written <;> exact .pure _

theorem agree_applyPlan (options : ApplyOptions) (err : String) (plan : Plan) :
    Agree (applyPlan (m := StateM Store) console options err plan)
      (applyPlan (m := StateM Disk) console options err plan) := by
  cases dry : options.dryRun with
  | true =>
      simp only [applyPlan, dry, if_true]
      exact .pure _
  | false =>
      cases refused : isRefused options plan with
      | true =>
          simp only [applyPlan, dry, refused, if_true, Bool.false_eq_true, if_false]
          exact .pure _
      | false =>
          simp only [applyPlan, dry, refused, Bool.false_eq_true, if_false]
          exact agree_carryOut console options _ err plan

theorem agree_runApply (options : ApplyOptions) :
    Agree (runApply (m := StateM Store) console file source options)
      (runApply (m := StateM Disk) console file source options) := by
  refine .bind (agree_prepare console file source) ?_
  rintro ⟨err, prepared⟩
  cases prepared with
  | error failure => exact .pure _
  | ok plan => exact agree_applyPlan console options err plan

theorem agree_runCheck (json : Bool) :
    Agree (runCheck (m := StateM Store) console file source json)
      (runCheck (m := StateM Disk) console file source json) := by
  refine .bind (agree_prepare console file source) ?_
  rintro ⟨err, prepared⟩
  cases prepared <;> exact .pure _

/-- Every command line has the same answer on a disk without faults as on the store there, and
leaves the same files. -/
theorem agree_respond (color : Bool) (words : List String) :
    Agree (respond (m := StateM Store) color words) (respond (m := StateM Disk) color words) := by
  unfold respond
  cases read? words with
  | none => exact .pure _
  | some request =>
      cases request with
      | help => exact .pure _
      | version => exact .pure _
      | run verbosity command =>
          cases command with
          | apply file source options => exact agree_runApply _ file source options
          | check file source json => exact agree_runCheck _ file source json
          | list => exact .pure _

end Command

end Emend
