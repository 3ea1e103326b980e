import Emend.Proofs.AcceptedRuleFiles
import Emend.Proofs.ReportedRepeats

/-! # Every issue of a rule file

The check of a rule file passes exactly the files whose rules are fit to run. Of any other it
reports all that is wrong and nothing else, rule by rule, and what is wrong with a body does not
depend on anything around it.
-/

namespace Emend

/-- Rules are fit to run. -/
structure Fit (definitions : List Definition) : Prop where
  filled : definitions ≠ []
  named : ∀ d ∈ definitions, ¬ Blank d.id
  distinct : (definitions.map Definition.id).Nodup
  sound : ∀ d ∈ definitions, d.body.Sound

namespace Definition

/-- A rule without an identifier has no label. -/
inductive Labelled (d : Definition) : Option String → Prop where
  | anonymous (blank : Blank d.id) : Labelled d none
  | named (named : ¬ Blank d.id) : Labelled d (some d.id)

/-- What is reported of the identifier of a rule behind `earlier` ones. -/
inductive IdReport (earlier : List Definition) (d : Definition) : List Issue → Prop where
  | missing (blank : Blank d.id) : IdReport earlier d [.missingField none .id]
  | repeated (named : ¬ Blank d.id) (met : d.id ∈ earlier.map Definition.id) :
      IdReport earlier d [.duplicateId d.id]
  | fine (named : ¬ Blank d.id) (unmet : d.id ∉ earlier.map Definition.id) : IdReport earlier d []

/-- What is reported of the body of a rule. -/
inductive BodyReport (d : Definition) : List Issue → Prop where
  | flawed {label issue} (labelled : d.Labelled label) (flaw : d.body.Flaw label issue) :
      BodyReport d [issue]
  | fine (sound : d.body.Sound) : BodyReport d []

/-- The check has seen the identifiers of the earlier rules. Whether it has seen a blank one does not
matter, since it never asks for it. -/
def Seen (earlier : List Definition) (seen : List String) : Prop :=
  ∀ id, ¬ Blank id → (id ∈ seen ↔ id ∈ earlier.map Definition.id)

variable {seen : List String} {earlier : List Definition} {d : Definition}
  {label : Option String} {issues : List Issue}

theorem isAnonymous_iff : d.isAnonymous = true ↔ Blank d.id := isBlank_iff

theorem labelled_iff : d.Labelled label ↔ label = d.label? := by
  unfold label?
  constructor
  · rintro (blank | named)
    · rw [if_pos (isAnonymous_iff.2 blank)]
    · rw [if_neg (isAnonymous_iff.not.2 named)]
  · rintro rfl
    split
    · next blank => exact .anonymous (isAnonymous_iff.1 blank)
    · next named => exact .named (isAnonymous_iff.not.1 named)

theorem idReport_iff (known : Seen earlier seen) :
    d.IdReport earlier issues ↔ issues = (d.idIssue? seen).toList := by
  unfold idIssue?
  by_cases blank : Blank d.id
  · rw [if_pos (isAnonymous_iff.2 blank)]
    constructor
    · rintro (_ | ⟨named, _⟩ | ⟨named, _⟩)
      · rfl
      · exact (named blank).elim
      · exact (named blank).elim
    · rintro rfl
      exact .missing blank
  · simp only [if_neg (isAnonymous_iff.not.2 blank), List.contains_iff_mem, known d.id blank]
    constructor
    · rintro (blank' | ⟨_, met⟩ | ⟨_, unmet⟩)
      · exact (blank blank').elim
      · rw [if_pos met]
        rfl
      · rw [if_neg unmet]
        rfl
    · rintro rfl
      split
      · next met => exact .repeated blank met
      · next unmet => exact .fine blank unmet

theorem bodyReport_iff : d.BodyReport issues ↔ issues = d.bodyIssue?.toList := by
  constructor
  · rintro (⟨labelled, flaw⟩ | sound)
    · rw [labelled_iff.1 labelled] at flaw
      rw [bodyIssue?_eq_some_iff.2 flaw]
      rfl
    · rw [bodyIssue?_eq_none_iff.2 sound]
      rfl
  · rintro rfl
    cases faulty : d.bodyIssue? with
    | none => exact .fine (bodyIssue?_eq_none_iff.1 faulty)
    | some issue => exact .flawed (labelled_iff.2 rfl) (bodyIssue?_eq_some_iff.1 faulty)

theorem Seen.append (known : Seen earlier seen) (d : Definition) :
    Seen (earlier ++ [d]) (if d.isAnonymous then seen else d.id :: seen) := by
  intro id named
  rw [List.map_append, List.mem_append, ← known id named]
  by_cases blank : Blank d.id
  · have different : id ≠ d.id := by
      rintro rfl
      exact named blank
    simp [isAnonymous_iff.2 blank, different]
  · simp [isAnonymous_iff, blank, or_comm]

end Definition

namespace RuleFile

/-- What is reported of rules behind `earlier` ones: in their order, first of the identifier and
then of the body of each. -/
inductive RulesReport : (earlier definitions : List Definition) → List Issue → Prop where
  | nil {earlier} : RulesReport earlier [] []
  | cons {earlier d rest ids bodies issues} (first : d.IdReport earlier ids)
      (second : d.BodyReport bodies) (later : RulesReport (earlier ++ [d]) rest issues) :
      RulesReport earlier (d :: rest) (ids ++ bodies ++ issues)

/-- What is reported of all rules of a file. -/
inductive FullReport : List Definition → List Issue → Prop where
  | noRules : FullReport [] [.noRules]
  | rules {definitions issues} (filled : definitions ≠ [])
      (report : RulesReport [] definitions issues) : FullReport definitions issues

variable {seen : List String} {earlier definitions : List Definition} {issues : List Issue}

theorem rulesReport_iff (known : Definition.Seen earlier seen) :
    RulesReport earlier definitions issues ↔ issues = issuesBehind seen definitions := by
  induction definitions generalizing seen earlier issues with
  | nil =>
      constructor
      · rintro ⟨⟩
        rfl
      · rintro rfl
        exact .nil
  | cons d rest ih =>
      have later (issues : List Issue) : RulesReport (earlier ++ [d]) rest issues ↔
          issues = issuesBehind (if d.isAnonymous then seen else d.id :: seen) rest :=
        ih (known.append d)
      constructor
      · rintro (_ | ⟨first, second, report⟩)
        rw [(Definition.idReport_iff known).1 first, Definition.bodyReport_iff.1 second,
          (later _).1 report]
        rfl
      · rintro rfl
        exact .cons ((Definition.idReport_iff known).2 rfl) (Definition.bodyReport_iff.2 rfl)
          ((later _).2 rfl)

theorem fullReport_iff {file : RuleFile} :
    FullReport file.definitions issues ↔ issues = file.issues := by
  have report : RulesReport [] file.definitions issues ↔
      issues = issuesBehind [] file.definitions := rulesReport_iff fun _ _ => Iff.rfl
  unfold RuleFile.issues
  cases shape : file.definitions with
  | nil =>
      constructor
      · rintro (_ | ⟨filled, _⟩)
        · rfl
        · exact (filled rfl).elim
      · rintro rfl
        exact .noRules
  | cons d rest =>
      rw [shape] at report
      constructor
      · rintro (_ | ⟨_, listed⟩)
        exact report.1 listed
      · intro listed
        exact .rules (List.cons_ne_nil d rest) (report.2 listed)

theorem validate_eq_ok_iff_fit {file : RuleFile} :
    file.validate = .ok () ↔ Fit file.definitions := by
  rw [validate_eq_ok_iff]
  constructor
  · rintro ⟨filled, fine, distinct⟩
    refine ⟨filled, ?_, distinct, ?_⟩
    · intro d member blank
      have anonymous := Definition.isAnonymous_iff.2 blank
      rw [(fine d member).1] at anonymous
      cases anonymous
    · intro d member
      exact Definition.bodyIssue?_eq_none_iff.1 (fine d member).2
  · rintro ⟨filled, named, distinct, sound⟩
    refine ⟨filled, fun d member => ⟨?_, ?_⟩, distinct⟩
    · exact Bool.eq_false_iff.2 (Definition.isAnonymous_iff.not.2 (named d member))
    · exact Definition.bodyIssue?_eq_none_iff.2 (sound d member)

theorem validate_eq_error_iff {file : RuleFile} :
    file.validate = .error issues ↔
      ¬ Fit file.definitions ∧ FullReport file.definitions issues := by
  rw [← validate_eq_ok_iff_fit, fullReport_iff]
  unfold validate
  cases file.issues with
  | nil => simp
  | cons issue rest => simp [eq_comm]

theorem filterMap_flaw?_issuesBehind (seen : List String) (definitions : List Definition) :
    (issuesBehind seen definitions).filterMap Issue.flaw? =
      (definitions.map Definition.body).flatMap fun body =>
        (Definition.mk "" body).bodyIssue?.toList := by
  induction definitions generalizing seen with
  | nil => rfl
  | cons d rest ih =>
      have idIssue : (d.idIssue? seen).toList.filterMap Issue.flaw? = [] := by
        unfold Definition.idIssue?
        split
        · rfl
        · split <;> rfl
      rw [issuesBehind, List.filterMap_append, List.filterMap_append, ih, idIssue,
        Definition.filterMap_flaw?_bodyIssue?]
      rfl

theorem filterMap_flaw?_reported (file : RuleFile) :
    file.reported.filterMap Issue.flaw? =
      (file.definitions.map Definition.body).flatMap fun body =>
        (Definition.mk "" body).bodyIssue?.toList := by
  rw [reported_eq, RuleFile.issues, List.filterMap_append, filterMap_flaw?_issuesBehind]
  split <;> simp [Issue.flaw?]

theorem count_reported {file : RuleFile} {id : String} (named : ¬ Blank id) :
    file.reported.count (.duplicateId id) = (file.definitions.map Definition.id).count id - 1 := by
  have kept : isNamed id = true := by
    rw [isNamed, Bool.not_eq_true', Bool.eq_false_iff]
    exact isBlank_iff.not.2 named
  have same (issue : Issue) : (issue.repeated? == some id) = (issue == .duplicateId id) := by
    cases issue <;> simp [Issue.repeated?]
  calc file.reported.count (.duplicateId id)
      = (file.reported.filterMap Issue.repeated?).count id := by
        rw [List.count_filterMap]
        simp only [same]
        rfl
    _ = ((file.definitions.map Definition.id).filter isNamed).count id - 1 := by
        rw [filterMap_reported, count_metAgain]
        simp
    _ = (file.definitions.map Definition.id).count id - 1 := by
        rw [List.count_filter kept]

/-- The check passes a file exactly if its rules are fit to run. Of any other file it reports all
that is wrong, rule by rule, and nothing else. An identifier is reported each time but the first
that it is used, and bodies are reported for the same flaws wherever they stand. -/
theorem validate_reports_all (file : RuleFile) :
    (file.validate = .ok () ↔ Fit file.definitions) ∧
    (∀ issues, file.validate = .error issues ↔
      ¬ Fit file.definitions ∧ FullReport file.definitions issues) ∧
    (∀ id, ¬ Blank id → file.reported.count (.duplicateId id) =
      (file.definitions.map Definition.id).count id - 1) ∧
    ∀ other : RuleFile,
      other.definitions.map Definition.body = file.definitions.map Definition.body →
      other.reported.filterMap Issue.flaw? = file.reported.filterMap Issue.flaw? := by
  refine ⟨validate_eq_ok_iff_fit, fun issues => validate_eq_error_iff, ?_, ?_⟩
  · intro id named
    exact count_reported named
  · intro other same
    rw [filterMap_flaw?_reported, filterMap_flaw?_reported, same]

/-- A repeated identifier hides no flaw, and a blank one is neither repeated nor a label. -/
example : (RuleFile.mk "" none none [⟨"a", .block " \n" "x"⟩, ⟨" ", .literal "" "x" .first⟩,
      ⟨"a", .literal "" "x" .all⟩, ⟨" ", .regex "" "x" false false false⟩]).reported =
    [.missingField (some "a") .old, .missingField none .id, .missingField none .old,
      .duplicateId "a", .missingField (some "a") .old, .missingField none .id,
      .missingField none .pattern] := by
  decide +kernel

end RuleFile

end Emend
