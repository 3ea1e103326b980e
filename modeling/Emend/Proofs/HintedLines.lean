import Emend.Proofs.Hints
import Emend.Proofs.LineEnds
import Emend.Proofs.NearMissPlace
import Emend.Proofs.Replacements

/-! # Whether hints name lines that differ

A rule looks for its text with the line ends in it, while a near miss compares lines without them.
So the lines that a hint names differ unless the buffer has all the lines of the text in a row, and
then the two are ended in different ways.
-/

namespace Emend

open Text

namespace Rule

variable {rule : Rule} {buffer expected : String} {application : Application}

theorem rewrites_of_expectedText? (sought : rule.expectedText? = some expected) :
    ∃ new mode, Rewrites expected new mode rule := by
  cases rule with
  | literal old new mode =>
      cases sought
      exact ⟨new, mode, .literal⟩
  | block old new =>
      cases sought
      exact ⟨new, .first, .block⟩
  | regex pattern template flags => cases sought

theorem replaceText_eq_noMatch_iff {mode : ReplaceMode} {old new : String} :
    (replaceText mode old new buffer).outcome = .noMatch ↔ ¬ old.toList <:+: buffer.toList := by
  rw [← cut?_eq_none_iff, replaceText]
  cases found : cut? old.toList buffer.toList with
  | none => exact iff_of_true rfl rfl
  | some parts => cases mode <;> simp

theorem eq_noMatch_iff_absent (sought : rule.expectedText? = some expected)
    (tried : rule.apply buffer = .ok application) :
    application.outcome = .noMatch ↔ ¬ expected.toList <:+: buffer.toList := by
  obtain ⟨new, mode, rewrites⟩ := rewrites_of_expectedText? sought
  by_cases empty : expected = ""
  · subst empty
    cases rewrites <;> simp [apply] at tried
  · have filled : expected.toList ≠ [] := by simpa using empty
    rw [rewrites.apply_eq filled] at tried
    cases tried
    exact replaceText_eq_noMatch_iff

end Rule

/-- The near miss of a text in a buffer that has all its lines there, but not the text. -/
structure SameLines (buffer expected : String) (hint : NearMiss Binary64) : Prop where
  absent : ¬ expected.toList <:+: buffer.toList
  found : NearMiss.find? NearMiss.leastScore buffer expected = some hint
  lines_eq : ((lines buffer.toList).drop (hint.line - 1)).take (lines expected.toList).length =
    lines expected.toList

theorem SameLines.not_endedAlike {buffer expected : String} {hint : NearMiss Binary64}
    (same : SameLines buffer expected hint) : ¬ EndedAlike buffer.toList expected.toList := by
  intro alike
  refine same.absent (alike.contains ?_)
  rw [← same.lines_eq]
  exact (List.take_prefix _ _).isInfix.trans (List.drop_suffix _ _).isInfix

namespace Run

variable {buffer text expected : String} {rules : List NamedRule} {applied : Applied}
  {hint : NearMiss Binary64}

/-- At its turn a rule looks for an exact text in a buffer. -/
def Seeks (buffer : String) (rules : List NamedRule) (text expected : String) : Prop :=
  ∃ place named before, rules[place]? = some named ∧
    apply true buffer (rules.take place) = .ok before ∧ before.buffer = text ∧
    named.rule.expectedText? = some expected

/-- The hints of a run are the near misses of texts that rules look for and that are not there. -/
theorem exists_hint_iff (ran : apply true buffer rules = .ok applied) :
    (∃ record ∈ applied.records, record.hint = some hint) ↔
      ∃ text expected, Seeks buffer rules text expected ∧ ¬ expected.toList <:+: text.toList ∧
        NearMiss.find? NearMiss.leastScore text expected = some hint := by
  constructor
  · rintro ⟨record, member, hinted⟩
    obtain ⟨place, named, before, application, here, ranBefore, tried, rfl⟩ :=
      exists_turn_of_record ran member
    obtain ⟨missed, expected, sought, found⟩ := hint?_eq_some_iff.1 hinted
    exact ⟨before.buffer, expected, ⟨place, named, before, here, ranBefore, rfl, sought⟩,
      (Rule.eq_noMatch_iff_absent sought tried).1 missed, found⟩
  · rintro ⟨_, expected, ⟨place, named, before, here, ranBefore, rfl, sought⟩, absent, found⟩
    obtain ⟨before', application, ranBefore', tried, recorded⟩ := exists_recordOf_of_apply ran here
    cases ranBefore.symm.trans ranBefore'
    refine ⟨_, List.mem_of_getElem? recorded, hint?_eq_some_iff.2 ⟨?_, expected, sought, found⟩⟩
    exact (Rule.eq_noMatch_iff_absent sought tried).2 absent

/-- The lines that a hint names are the same only where the buffer has the lines of the text. -/
theorem sameLines_iff (absent : ¬ expected.toList <:+: text.toList)
    (found : NearMiss.find? NearMiss.leastScore text expected = some hint) :
    SameLines text expected hint ↔ hint.found = hint.expected := by
  have searched := NearMiss.searched_find? (NearMiss.leastScore : Binary64) text expected
  rw [found] at searched
  constructor
  · intro same
    exact searched.located.same.2 same.lines_eq
  · intro same
    exact ⟨absent, found, searched.located.same.1 same⟩

/-- Every hint of a run names lines that differ, unless some rule looks for a text of which the
buffer has all the lines where it is most like it. That never happens to texts that are ended in
the way of the buffer. -/
theorem hints_differ_iff (ran : apply true buffer rules = .ok applied) :
    ((∀ record ∈ applied.records, ∀ hint, record.hint = some hint → hint.found ≠ hint.expected) ↔
      ∀ text expected hint, Seeks buffer rules text expected → ¬ SameLines text expected hint) ∧
    ((∀ text expected, Seeks buffer rules text expected →
        EndedAlike text.toList expected.toList) →
      ∀ record ∈ applied.records, ∀ hint, record.hint = some hint →
        hint.found ≠ hint.expected) := by
  have differ_iff : (∀ record ∈ applied.records, ∀ hint, record.hint = some hint →
      hint.found ≠ hint.expected) ↔
      ∀ text expected hint, Seeks buffer rules text expected → ¬ SameLines text expected hint := by
    constructor
    · intro differ text expected hint seeks same
      obtain ⟨record, member, hinted⟩ :=
        (exists_hint_iff ran).2 ⟨text, expected, seeks, same.absent, same.found⟩
      exact differ record member hint hinted ((sameLines_iff same.absent same.found).1 same)
    · intro never record member hint hinted same
      obtain ⟨text, expected, seeks, absent, found⟩ :=
        (exists_hint_iff ran).1 ⟨record, member, hinted⟩
      exact never text expected hint seeks ((sameLines_iff absent found).2 same)
  refine ⟨differ_iff, fun alike => differ_iff.2 ?_⟩
  intro text expected hint seeks same
  exact same.not_endedAlike (alike text expected seeks)

/-- A list with one rule, for a block in which a blank is too many. -/
def driftedRules : List NamedRule :=
  [⟨"drifted", .block "begin\n    let x = 1 ;\n" "begin\n"⟩]

theorem seeks_driftedRules {buffer text expected : String}
    (seeks : Seeks buffer driftedRules text expected) :
    text = buffer ∧ expected = "begin\n    let x = 1 ;\n" := by
  obtain ⟨place, named, before, here, ran, rfl, sought⟩ := seeks
  cases place with
  | zero =>
      cases here
      cases ran
      cases sought
      exact ⟨rfl, rfl⟩
  | succ place => cases here

/-- The block and the buffer are ended alike, and the hint names the line with the blank. -/
theorem hints_differ_of_drift :
    ∃ applied, apply true "begin\n    let x = 1;\nend\n" driftedRules = .ok applied ∧
      (∃ record ∈ applied.records, record.hint.map (·.divergentLine) = some 2) ∧
      ∀ record ∈ applied.records, ∀ hint, record.hint = some hint → hint.found ≠ hint.expected := by
  have ran : apply true "begin\n    let x = 1;\nend\n" driftedRules =
      .ok ⟨"begin\n    let x = 1;\nend\n", [⟨0, "drifted", .block, .noMatch,
        some ⟨1, ⟨0x3fee8ba2e8ba2e8c⟩, 2, "    let x = 1;", "    let x = 1 ;"⟩⟩]⟩ :=
    eq_ok_of_toOption (by decide +kernel)
  refine ⟨_, ran, ⟨_, List.mem_cons_self, rfl⟩, (hints_differ_iff ran).2 ?_⟩
  intro text expected seeks
  obtain ⟨rfl, rfl⟩ := seeks_driftedRules seeks
  exact ⟨by decide, by decide, by decide⟩

/-- Here the buffer has both lines of the block, with other ends, and the hint names no
difference. -/
theorem hint_without_difference :
    ¬ ∀ (buffer : String) (rules : List NamedRule) (applied : Applied),
      apply true buffer rules = .ok applied →
      ∀ record ∈ applied.records, ∀ hint, record.hint = some hint →
        hint.found ≠ hint.expected := by
  intro differ
  have ran : apply true "one\r\ntwo\r\n" [⟨"pair", .block "one\ntwo\n" "three\n"⟩] =
      .ok ⟨"one\r\ntwo\r\n", [⟨0, "pair", .block, .noMatch,
        some ⟨1, ⟨0x3ff0000000000000⟩, 1, "one", "one"⟩⟩]⟩ :=
    eq_ok_of_toOption (by decide +kernel)
  exact differ _ _ _ ran _ List.mem_cons_self _ rfl rfl

end Run

end Emend
