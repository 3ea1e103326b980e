import Emend.Command.Basic
import Emend.Proofs.FileRun

/-! # Plans of commands

Before a command writes anything it loads rules, finds the file to patch and plans a run on
it. All of this changes nothing, and there is one plan at most.
-/

namespace Emend.Command

variable {console : Console} {file : Option String} {source : RuleSource}
  {options : ApplyOptions} {plan other : Plan} {disk ready again after : Disk}

/-- A plan is made: the rules load, there is a file to patch, and the run on that file can be
planned. Behind this the disk is `ready`. -/
def Planned (file : Option String) (source : RuleSource) (disk : Disk) (plan : Plan)
    (ready : Disk) : Prop :=
  ∃ loaded,
    RuleSource.load (m := StateM Disk) source disk = (.ok plan.rules, loaded) ∧
    resolveTarget file plan.rules = .ok plan.target ∧
    plan.rules.plan (m := StateM Disk) true plan.target loaded = (.ok plan.report, ready)

/-- A plan is refused if every rule has to find its target and one has not. -/
def Refused (options : ApplyOptions) (plan : Plan) : Prop :=
  options.strict = true ∧ ∃ record ∈ plan.report.records, record.outcome = .noMatch

theorem kept_of_load {result : Except Failure RuleSet}
    (loaded : RuleSource.load (m := StateM Disk) source disk = (result, after)) :
    disk.Kept after := by
  cases source with
  | file path =>
      obtain ⟨_, _, parsed, rest⟩ := bind_eq_iff.1 loaded
      cases rest
      obtain ⟨_, _, decoded, rest⟩ := bind_eq_iff.1 parsed
      cases rest
      obtain ⟨_, _, performed, rest⟩ := bind_eq_iff.1 decoded
      cases rest
      exact (Files.readText_spec performed).1
  | builtIn name =>
      cases found : BuiltIn.find? name <;> simp only [RuleSource.load, found] at loaded <;>
        cases loaded <;> exact ⟨rfl, rfl⟩

theorem planOf_eq_ok_iff {rules : RuleSet} {target : String} {read : Except FileError String} :
    planOf rules target read = .ok plan ↔
      plan.rules = rules ∧ plan.target = target ∧
        ∃ text, read = .ok text ∧ Report.ofText true rules target text = .ok plan.report := by
  constructor
  · intro made
    cases read with
    | error reason => cases made
    | ok text =>
        cases planText : Report.ofText true rules target text with
        | error reason =>
            simp only [planOf, planText] at made
            cases made
        | ok report =>
            simp only [planOf, planText] at made
            cases made
            exact ⟨rfl, rfl, text, rfl, planText⟩
  · rintro ⟨rfl, rfl, text, rfl, planText⟩
    simp only [planOf, planText]

theorem prepare_eq_ok_iff :
    (∃ journal, prepare (m := StateM Disk) console file source disk = ((journal, .ok plan), ready))
      ↔ Planned file source disk plan ready := by
  constructor
  · rintro ⟨journal, prepared⟩
    obtain ⟨result, loaded, performed, rest⟩ := bind_eq_iff.1 prepared
    cases result with
    | error failure => cases rest
    | ok rules =>
        cases chosen : resolveTarget file rules with
        | error failure =>
            simp only [chosen] at rest
            cases rest
        | ok target =>
            simp only [chosen] at rest
            obtain ⟨read, middle, held, rest⟩ := bind_eq_iff.1 rest
            have same : ((planEntries console rules target read, planOf rules target read), middle) =
                ((journal, .ok plan), ready) := rest
            cases congrArg Prod.snd same
            obtain ⟨rfl, rfl, text, rfl, planText⟩ :=
              planOf_eq_ok_iff.1 (congrArg (·.1.2) same)
            exact ⟨loaded, performed, chosen, RuleSet.plan_eq_ok_iff.2 ⟨text, held, planText⟩⟩
  · rintro ⟨loaded, performed, chosen, planned⟩
    obtain ⟨text, held, planText⟩ := RuleSet.plan_eq_ok_iff.1 planned
    refine ⟨planEntries console plan.rules plan.target (.ok text),
      bind_eq_iff.2 ⟨_, loaded, performed, ?_⟩⟩
    simp only [chosen]
    refine bind_eq_iff.2 ⟨_, ready, held, ?_⟩
    rw [planOf_eq_ok_iff.2 ⟨rfl, rfl, text, rfl, planText⟩]
    rfl

theorem not_planned_of_prepare_error {journal : String} {failure : Failure}
    (failed : prepare (m := StateM Disk) console file source disk =
      ((journal, .error failure), again)) : ¬ Planned file source disk plan ready := by
  intro planned
  -- A plan would have been prepared.
  have made : ∃ journal, prepare (m := StateM Disk) console file source disk =
      ((journal, .ok plan), ready) := prepare_eq_ok_iff.2 planned
  obtain ⟨_, made⟩ := made
  cases failed.symm.trans made

theorem kept_of_prepare {result : String × Except Failure Plan}
    (prepared : prepare (m := StateM Disk) console file source disk = (result, after)) :
    disk.Kept after := by
  obtain ⟨rules, loaded, performed, rest⟩ := bind_eq_iff.1 prepared
  have kept := kept_of_load performed
  cases rules with
  | error failure =>
      cases rest
      exact kept
  | ok rules =>
      cases chosen : resolveTarget file rules with
      | error failure =>
          simp only [chosen] at rest
          cases rest
          exact kept
      | ok target =>
          simp only [chosen] at rest
          obtain ⟨_, _, held, rest⟩ := bind_eq_iff.1 rest
          cases rest
          exact kept.trans (Files.readText_spec held).1

theorem isRefused_iff : isRefused options plan = true ↔ Refused options plan := by
  simp only [isRefused, Refused, Bool.and_eq_true, Bool.not_eq_true', Report.allApplied_eq_false_iff]

namespace Planned

variable (planned : Planned file source disk plan ready)
include planned

theorem unique (others : Planned file source disk other again) : plan = other ∧ ready = again := by
  obtain ⟨loaded, performed, chosen, made⟩ := planned
  obtain ⟨loaded', performed', chosen', made'⟩ := others
  obtain ⟨rules, target, report⟩ := plan
  obtain ⟨rules', target', report'⟩ := other
  cases performed.symm.trans performed'
  cases chosen.symm.trans chosen'
  cases made.symm.trans made'
  exact ⟨rfl, rfl⟩

theorem exists_iff (holds : Plan → Disk → Prop) :
    (∃ plan ready, Planned file source disk plan ready ∧ holds plan ready) ↔ holds plan ready := by
  constructor
  · rintro ⟨other, again, others, fact⟩
    obtain ⟨rfl, rfl⟩ := planned.unique others
    exact fact
  · exact fun fact => ⟨plan, ready, planned, fact⟩

theorem kept : disk.Kept ready := by
  obtain ⟨loaded, performed, _, made⟩ := planned
  exact (kept_of_load performed).trans (RuleSet.kept_of_plan made)

theorem file_eq : plan.report.file = plan.target := by
  obtain ⟨_, _, _, made⟩ := planned
  exact RuleSet.file_of_plan_ok made

theorem read : ready.store.read plan.target = .ok plan.report.before.toUTF8 := by
  obtain ⟨_, _, _, made⟩ := planned
  rw [(RuleSet.kept_of_plan made).store]
  exact (RuleSet.held_of_plan_ok made).1

end Planned

end Emend.Command
