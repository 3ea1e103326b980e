import Emend.Proofs.Flaws
import Emend.Proofs.Repeats
import Emend.RuleFile.Load

/-! # Repeated identifiers, reported and listed

The check of a rule file reports an identifier each time that it is met again, and passes over
blank ones. The rule set of the file lists every identifier that is met again, but once. Without
blanks and repetitions both give the same identifiers in the same order.
-/

namespace Emend

/-- The identifier that an issue says is repeated. -/
def Issue.repeated? : Issue → Option String
  | .duplicateId id => some id
  | _ => none

theorem Body.Flaw.repeated?_eq {body : Body} {label : Option String} {issue : Issue}
    (flaw : body.Flaw label issue) : issue.repeated? = none := by
  cases flaw <;> rfl

/-- Whether an identifier says something. -/
def isNamed (id : String) : Bool := !Text.isBlank id.toList

namespace Definition

theorem isNamed_id (d : Definition) : isNamed d.id = !d.isAnonymous := rfl

theorem filterMap_bodyIssue? (d : Definition) :
    d.bodyIssue?.toList.filterMap Issue.repeated? = [] := by
  cases faulty : d.bodyIssue? with
  | none => rfl
  | some issue => simp [(bodyIssue?_eq_some_iff.1 faulty).repeated?_eq]

theorem filterMap_idIssue? (seen : List String) (d : Definition) :
    (d.idIssue? seen).toList.filterMap Issue.repeated? =
      if isNamed d.id ∧ d.id ∈ seen then [d.id] else [] := by
  unfold idIssue?
  cases blank : d.isAnonymous with
  | true => simp [isNamed_id, blank, Issue.repeated?]
  | false => by_cases met : d.id ∈ seen <;> simp [isNamed_id, blank, met, Issue.repeated?]

end Definition

namespace RuleFile

/-- What the check of a file reports. -/
def reported (file : RuleFile) : List Issue :=
  match file.validate with
  | .ok _ => []
  | .error issues => issues

theorem reported_eq (file : RuleFile) : file.reported = file.issues := by
  unfold reported validate
  cases file.issues <;> rfl

/-- The check reports an identifier each time that it is met again. A blank one is never kept, so
that it is not met again. -/
theorem filterMap_issuesBehind (seen : List String) (definitions : List Definition) :
    (issuesBehind seen definitions).filterMap Issue.repeated? =
      metAgain seen ((definitions.map Definition.id).filter isNamed) := by
  induction definitions generalizing seen with
  | nil => rfl
  | cons d rest ih =>
      rw [issuesBehind, List.filterMap_append, List.filterMap_append, ih,
        Definition.filterMap_idIssue?, Definition.filterMap_bodyIssue?]
      cases blank : d.isAnonymous with
      | true => simp [d.isNamed_id, blank]
      | false =>
          by_cases met : d.id ∈ seen
          · have kept (ids : List String) : metAgain (d.id :: seen) ids = metAgain seen ids :=
              metAgain_congr (by simpa using met) ids
            simp [d.isNamed_id, blank, met, metAgain, kept]
          · simp [d.isNamed_id, blank, met, metAgain]

theorem filterMap_reported (file : RuleFile) :
    file.reported.filterMap Issue.repeated? =
      metAgain [] ((file.definitions.map Definition.id).filter isNamed) := by
  rw [reported_eq, issues, List.filterMap_append, filterMap_issuesBehind]
  split <;> simp [Issue.repeated?]

/-- Whatever a file says, the identifiers that its check reports as repeated, each taken where it is
reported first, are those that its rule set lists, without the blank ones. -/
theorem reported_repeats_eq_duplicateIds (file : RuleFile) :
    (file.reported.filterMap Issue.repeated?).eraseDups =
      file.toRuleSet.duplicateIds.filter fun id => !Text.isBlank id.toList := by
  have named : (metAgain [] (file.definitions.map Definition.id)).filter isNamed =
      metAgain [] ((file.definitions.map Definition.id).filter isNamed) :=
    metAgain_filter isNamed [] _
  calc (file.reported.filterMap Issue.repeated?).eraseDups
      = ((metAgain [] (file.definitions.map Definition.id)).filter isNamed).eraseDups := by
        rw [filterMap_reported, named]
    _ = (metAgain [] (file.toRuleSet.rules.map NamedRule.id)).eraseDups.filter isNamed := by
        rw [filter_eraseDups, map_id_toRuleSet]
    _ = file.toRuleSet.duplicateIds.filter isNamed := by rw [RuleSet.duplicateIds_eq]

end RuleFile

end Emend
