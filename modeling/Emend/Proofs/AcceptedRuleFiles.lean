import Emend.Proofs.FirstFault
import Emend.Proofs.Repeats
import Emend.RuleFile.Load
import Mathlib.Data.List.Forall2

/-! # What the check of rule files is good for

The check of a rule file, the rules that the file describes and the run of those rules each
look for empty texts and faulty patterns in a way of their own. A file without issues passes
all three: its set has the rules of its definitions, and no run of them stops.
-/

namespace Emend

/-- A rule of a set with the definition that it comes from. They have the identifier and
every field in common, and each flag is the one with its own name. -/
inductive Definition.Describes : Definition → NamedRule → Prop where
  | literal {id old new mode} : Describes ⟨id, .literal old new mode⟩ ⟨id, .literal old new mode⟩
  | block {id old new} : Describes ⟨id, .block old new⟩ ⟨id, .block old new⟩
  | regex {id pattern template} (flags : Regex.Flags) :
      Describes ⟨id, .regex pattern template
          flags.multiLine flags.caseInsensitive flags.dotMatchesNewLine⟩
        ⟨id, .regex pattern template flags⟩

namespace Definition

theorem describes_toRule (d : Definition) : d.Describes ⟨d.id, d.body.toRule⟩ := by
  obtain ⟨id, body⟩ := d
  cases body with
  | literal old new occurrences => exact .literal
  | regex pattern replacement multiLine caseInsensitive dotMatchesNewLine =>
      exact .regex ⟨multiLine, caseInsensitive, dotMatchesNewLine⟩
  | block old new => exact .block

/-- A body without an issue makes a rule that can be applied. The issue that a block of white
space has is one more than its rule has. -/
theorem validate_of_bodyIssue? {d : Definition} (sound : d.bodyIssue? = none) :
    d.body.toRule.validate = .ok () := by
  obtain ⟨id, body⟩ := d
  cases body with
  | literal old new occurrences =>
      by_cases empty : old = "" <;> simp_all [bodyIssue?, Body.toRule, Rule.validate]
  | regex pattern replacement multiLine caseInsensitive dotMatchesNewLine =>
      simp only [bodyIssue?] at sound
      split at sound
      · cases sound
      · split at sound
        · assumption
        · cases sound
  | block old new =>
      -- The rule file asks for more than the rule: an empty block is one of white space.
      have filled : old ≠ "" := by
        rintro rfl
        simp [bodyIssue?, Text.isBlank] at sound
      simp [Body.toRule, Rule.validate, filled]

theorem idIssue?_eq_none_iff {seen : List String} {d : Definition} :
    d.idIssue? seen = none ↔ d.isAnonymous = false ∧ d.id ∉ seen := by
  unfold idIssue?
  cases d.isAnonymous <;> simp

end Definition

namespace RuleFile

/-- Definitions behind the identifiers `seen` have no issues exactly if each of them has an
identifier of its own and a sound body. -/
theorem issuesBehind_eq_nil_iff {seen : List String} {definitions : List Definition} :
    issuesBehind seen definitions = [] ↔
      (∀ d ∈ definitions, d.isAnonymous = false ∧ d.bodyIssue? = none) ∧
      (definitions.map Definition.id).Nodup ∧ ∀ d ∈ definitions, d.id ∉ seen := by
  induction definitions generalizing seen with
  | nil => simp [issuesBehind]
  | cons d rest ih =>
      simp only [issuesBehind, List.append_eq_nil_iff, Option.toList_eq_nil_iff,
        Definition.idIssue?_eq_none_iff, ih, List.forall_mem_cons, List.map_cons, List.nodup_cons]
      constructor
      · rintro ⟨⟨⟨known, unseen⟩, sound⟩, fit, distinct, fresh⟩
        simp only [known, Bool.false_eq_true, if_false, List.mem_cons, not_or] at fresh
        have absent : d.id ∉ rest.map Definition.id := by
          intro member
          obtain ⟨other, inside, same⟩ := List.mem_map.1 member
          exact (fresh other inside).1 same
        exact ⟨⟨⟨known, sound⟩, fit⟩, ⟨absent, distinct⟩, unseen,
          fun other inside => (fresh other inside).2⟩
      · rintro ⟨⟨⟨known, sound⟩, fit⟩, ⟨absent, distinct⟩, unseen, fresh⟩
        refine ⟨⟨⟨known, unseen⟩, sound⟩, fit, distinct, ?_⟩
        intro other inside
        simp only [known, Bool.false_eq_true, if_false, List.mem_cons, not_or]
        exact ⟨fun same => absent (List.mem_map.2 ⟨other, inside, same⟩), fresh other inside⟩

theorem validate_eq_ok_iff {file : RuleFile} :
    file.validate = .ok () ↔
      file.definitions ≠ [] ∧
      (∀ d ∈ file.definitions, d.isAnonymous = false ∧ d.bodyIssue? = none) ∧
      (file.definitions.map Definition.id).Nodup := by
  have none : file.issues = [] ↔ file.definitions ≠ [] ∧ issuesBehind [] file.definitions = [] := by
    unfold issues
    cases file.definitions <;> simp
  have accepted : file.validate = .ok () ↔ file.issues = [] := by
    unfold validate
    cases file.issues <;> simp
  rw [accepted, none, issuesBehind_eq_nil_iff]
  simp

theorem ofText_eq_ok_iff {text : String} {file : RuleFile} :
    ofText text = .ok file ↔ decode text = .ok file ∧ file.validate = .ok () := by
  unfold ofText
  cases decode text with
  | error e => simp
  | ok decoded =>
      simp only [Except.ok.injEq]
      cases checked : decoded.validate with
      | error issues =>
          constructor
          · intro read
            cases read
          · rintro ⟨same, valid⟩
            subst same
            cases checked.symm.trans valid
      | ok _ =>
          constructor
          · intro read
            cases read
            exact ⟨rfl, checked⟩
          · rintro ⟨same, _⟩
            rw [same]

theorem describes_toRuleSet (file : RuleFile) :
    List.Forall₂ Definition.Describes file.definitions file.toRuleSet.rules := by
  simp only [toRuleSet, List.forall₂_map_right_iff, List.forall₂_same]
  exact fun d _ => d.describes_toRule

theorem duplicateIds_toRuleSet {file : RuleFile}
    (distinct : (file.definitions.map Definition.id).Nodup) :
    file.toRuleSet.duplicateIds = [] := by
  refine List.eq_nil_iff_forall_not_mem.2 fun id member => ?_
  have twice := ((RuleSet.listsRepeated_duplicateIds _).mem_iff id).1 member
  have once := List.nodup_iff_count_le_one.1 distinct id
  rw [map_id_toRuleSet] at twice
  omega

theorem validate_rule_of_accepted {file : RuleFile} (accepted : file.validate = .ok ()) :
    ∀ named ∈ file.toRuleSet.rules, named.rule.validate = .ok () := by
  obtain ⟨_, fit, _⟩ := validate_eq_ok_iff.1 accepted
  intro named member
  obtain ⟨d, inside, rfl⟩ := List.mem_map.1 member
  exact Definition.validate_of_bodyIssue? (fit d inside).2

/-- A rule file that loads never stops a run. This holds of what any text is read as, and of
any contents without issues, wherever they come from. -/
theorem accepted_never_stops (file : RuleFile)
    (accepted : file.validate = .ok () ∨ ∃ text, ofText text = .ok file) :
    file.toRuleSet.rules ≠ [] ∧
    List.Forall₂ Definition.Describes file.definitions file.toRuleSet.rules ∧
    file.toRuleSet.duplicateIds = [] ∧
    file.toRuleSet.validate = .ok () ∧
    ∀ hints buffer, ∃ applied, Run.apply hints buffer file.toRuleSet.rules = .ok applied ∧
      applied.records.length = file.toRuleSet.rules.length := by
  have valid : file.validate = .ok () := by
    rcases accepted with valid | ⟨text, read⟩
    · exact valid
    · exact (ofText_eq_ok_iff.1 read).2
  obtain ⟨filled, _, distinct⟩ := validate_eq_ok_iff.1 valid
  have applicable := validate_rule_of_accepted valid
  refine ⟨?_, describes_toRuleSet file, duplicateIds_toRuleSet distinct,
    RuleSet.validate_eq_ok_iff.2 applicable, ?_⟩
  · simpa [toRuleSet] using filled
  · intro hints buffer
    obtain ⟨applied, ran⟩ := Run.exists_apply_eq_ok hints buffer applicable
    exact ⟨applied, ran, Run.records_length_of_applyFrom ran⟩

/-- A rule file with two kinds of rules and a flag. -/
def mixedText : String :=
"[[rules]]
id = \"a\"
type = \"regex\"
pattern = \"^x+\"
replacement = \"y\"
multi_line = true
[[rules]]
id = \"b\"
type = \"block\"
old = \" y\"
new = \"\"
"

def mixed : RuleFile :=
  ⟨"", none, none, [⟨"a", .regex "^x+" "y" true false false⟩, ⟨"b", .block " y" ""⟩]⟩

theorem ofText_mixedText : ofText mixedText = .ok mixed :=
  eq_ok_of_toOption (by decide +kernel)

theorem mixed_never_stops :
    ofText mixedText = .ok mixed ∧ mixed.toRuleSet.validate = .ok () ∧
      ∃ applied, Run.apply true "xx\n" mixed.toRuleSet.rules = .ok applied ∧
        applied.records.length = 2 := by
  have fine := accepted_never_stops mixed (.inr ⟨mixedText, ofText_mixedText⟩)
  exact ⟨ofText_mixedText, fine.2.2.2.1, fine.2.2.2.2 true "xx\n"⟩

end RuleFile

end Emend
