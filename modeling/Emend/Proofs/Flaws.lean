import Emend.RuleFile.Issue

/-! # Flaws of rule bodies

A body is flawed by itself: neither its rule's identifier nor any other rule has a say in it. The
identifier is only the label under which the flaw is reported.
-/

namespace Emend

/-- A text without a character that is not white space. -/
def Blank (text : String) : Prop := ∀ c ∈ text.toList, Text.isSpace c = true

theorem isBlank_iff {text : String} : Text.isBlank text.toList = true ↔ Blank text :=
  List.all_eq_true

/-- The rule of a body can be applied, and a block of it has more than white space. -/
def Body.Sound : Body → Prop
  | .literal old _ _ => old ≠ ""
  | .block old _ => ¬ Blank old
  | .regex pattern _ multiLine caseInsensitive dotMatchesNewLine =>
      pattern ≠ "" ∧ ∃ regex,
        Regex.compile pattern { multiLine, caseInsensitive, dotMatchesNewLine } = .ok regex

/-- What is reported of a body under a label. -/
inductive Body.Flaw : Body → (label : Option String) → Issue → Prop where
  | literal {new occurrences label} :
      Flaw (.literal "" new occurrences) label (.missingField label .old)
  | block {old new label} (blank : Blank old) :
      Flaw (.block old new) label (.missingField label .old)
  | noPattern {template multiLine caseInsensitive dotMatchesNewLine label} :
      Flaw (.regex "" template multiLine caseInsensitive dotMatchesNewLine) label
        (.missingField label .pattern)
  | badPattern {pattern template multiLine caseInsensitive dotMatchesNewLine label reason}
      (filled : pattern ≠ "")
      (refused : Regex.compile pattern { multiLine, caseInsensitive, dotMatchesNewLine } =
        .error reason) :
      Flaw (.regex pattern template multiLine caseInsensitive dotMatchesNewLine) label
        (.invalidRule label (.invalidPattern pattern reason))

/-- What an issue says of a body, less the label. -/
def Issue.flaw? : Issue → Option Issue
  | .missingField _ .id => none
  | .missingField _ field => some (.missingField none field)
  | .invalidRule _ reason => some (.invalidRule none reason)
  | _ => none

theorem Body.Flaw.exists_flaw? {body : Body} {label : Option String} {issue : Issue}
    (flaw : body.Flaw label issue) : ∃ bare, issue.flaw? = some bare ∧ body.Flaw none bare := by
  cases flaw with
  | literal => exact ⟨_, rfl, .literal⟩
  | block blank => exact ⟨_, rfl, .block blank⟩
  | noPattern => exact ⟨_, rfl, .noPattern⟩
  | badPattern filled refused => exact ⟨_, rfl, .badPattern filled refused⟩

namespace Definition

variable {d : Definition} {issue : Issue}

theorem bodyIssue?_eq_some_iff : d.bodyIssue? = some issue ↔ d.body.Flaw d.label? issue := by
  obtain ⟨id, body⟩ := d
  constructor
  · intro faulty
    cases body with
    | literal old new occurrences =>
        simp only [bodyIssue?] at faulty
        split at faulty
        · next empty =>
            cases faulty
            subst empty
            exact .literal
        · cases faulty
    | block old new =>
        simp only [bodyIssue?] at faulty
        split at faulty
        · next blank =>
            cases faulty
            exact .block (isBlank_iff.1 blank)
        · cases faulty
    | regex pattern template multiLine caseInsensitive dotMatchesNewLine =>
        simp only [bodyIssue?, Body.toRule, Rule.validate, Rule.compilePattern] at faulty
        split at faulty
        · next empty =>
            cases faulty
            subst empty
            exact .noPattern
        · next filled =>
            cases compiled : Regex.compile pattern
                { multiLine, caseInsensitive, dotMatchesNewLine } with
            | ok regex =>
                rw [compiled] at faulty
                cases faulty
            | error reason =>
                rw [compiled] at faulty
                cases faulty
                exact .badPattern filled compiled
  · intro flaw
    cases flaw with
    | literal => rfl
    | block blank => simp [bodyIssue?, isBlank_iff.2 blank]
    | noPattern => rfl
    | badPattern filled refused =>
        simp only [bodyIssue?, if_neg filled, Body.toRule, Rule.validate, Rule.compilePattern,
          refused]
        rfl

theorem bodyIssue?_eq_none_iff : d.bodyIssue? = none ↔ d.body.Sound := by
  obtain ⟨id, body⟩ := d
  cases body with
  | literal old new occurrences => simp [bodyIssue?, Body.Sound]
  | block old new => simp [bodyIssue?, Body.Sound, isBlank_iff]
  | regex pattern template multiLine caseInsensitive dotMatchesNewLine =>
      by_cases empty : pattern = ""
      · simp [bodyIssue?, Body.Sound, empty]
      · simp only [bodyIssue?, if_neg empty, Body.Sound, Body.toRule, Rule.validate,
          Rule.compilePattern]
        cases Regex.compile pattern { multiLine, caseInsensitive, dotMatchesNewLine } with
        | ok regex => exact iff_of_true rfl ⟨empty, regex, rfl⟩
        | error reason =>
            refine iff_of_false (Option.some_ne_none _) ?_
            rintro ⟨_, _, compiled⟩
            cases compiled

/-- An empty identifier stands for any other one, as only the label has something of it. -/
theorem filterMap_flaw?_bodyIssue? (d : Definition) :
    d.bodyIssue?.toList.filterMap Issue.flaw? = (Definition.mk "" d.body).bodyIssue?.toList := by
  cases faulty : d.bodyIssue? with
  | none =>
      have sound := bodyIssue?_eq_none_iff.1 faulty
      have again : (Definition.mk "" d.body).bodyIssue? = none := bodyIssue?_eq_none_iff.2 sound
      rw [again]
      rfl
  | some issue =>
      obtain ⟨bare, same, flaw⟩ := (bodyIssue?_eq_some_iff.1 faulty).exists_flaw?
      have again : (Definition.mk "" d.body).bodyIssue? = some bare :=
        bodyIssue?_eq_some_iff.2 flaw
      simp [same, again]

end Definition

end Emend
