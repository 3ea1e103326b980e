import Emend.BuiltIn
import Emend.Proofs.IndependentRules
import Emend.Proofs.PlainRules
import Emend.Proofs.SettledRuns

/-! # The set of official matches settles

Behind one run of the set another finds nothing. The block is replaced only once, but every block
has the head of the loop in it, and the rule behind replaces all of those.
-/

namespace Emend.BuiltIn

open Text

/-! ## Texts of literals

The texts of the set are compared as the lists of characters that their literals stand for, since
decoding their bytes would take long. -/

section Literals

variable {x y old new pattern template : List Char}

theorem apart_ofList (apart : Apart x y) : Apart (String.ofList x).toList (String.ofList y).toList := by
  rwa [String.toList_ofList, String.toList_ofList]

theorem infix_ofList (inside : x <:+: y) :
    (String.ofList x).toList <:+: (String.ofList y).toList := by
  rwa [String.toList_ofList, String.toList_ofList]

theorem doneBy_plainRegex {id : String} (read : Regex.plainPattern old = pattern)
    (written : Regex.plainTemplate new = template) (filled : old ≠ [])
    (short : 32 * (Regex.Expr.word .forward old).length + 208 ≤ Regex.sizeLimit) :
    (Exact.mk (String.ofList old) (String.ofList new) .all).DoneBy
      ⟨id, .regex (String.ofList pattern) (String.ofList template) .none⟩ := by
  intro buffer
  have same : Rule.plainRegex (String.ofList old) (String.ofList new) =
      .regex (String.ofList pattern) (String.ofList template) .none := by
    rw [Rule.plainRegex, String.toList_ofList, String.toList_ofList, read, written]
  rw [← same]
  exact Rule.apply_plainRegex (by rwa [String.toList_ofList]) (by rwa [String.toList_ofList]) _ buffer

end Literals

/-! ## What the rules do -/

/-- The field that the set renames. -/
def oldField : String := "analysis.suggestedSubSentiments"

/-- The head of the loop that the set moves to official matches. -/
def oldLoop : String := "for (const suggestion of analysis.matches)"

/-- The start of the message that the set rewrites. -/
def oldMessage : String := "console.log(`\\n🔍 Validando sugestão: \"$\x7bsuggestion.name\x7d\""

/-- The rules of the set as exact rules. -/
def officialExacts : List Exact := [
  ⟨oldField, "analysis.matches", .all⟩,
  ⟨validationPreamble, splitPreamble, .first⟩,
  ⟨oldLoop, "for (const match of officialMatches)", .all⟩,
  ⟨oldMessage,
    "console.log(`\\n🔍 Validando match oficial: \"$\x7bmatch.name\x7d\" (ID: $\x7bmatch.id\x7d)",
    .all⟩]

set_option maxRecDepth 10000 in
theorem split_spares_oldField :
    (Exact.mk validationPreamble splitPreamble .first).Spares oldField :=
  ⟨apart_ofList (by decide +kernel), apart_ofList (by decide +kernel)⟩

set_option maxRecDepth 10000 in
theorem oldLoop_infix_preamble : oldLoop.toList <:+: validationPreamble.toList :=
  infix_ofList (by decide +kernel)

theorem doneBy_officialExacts :
    List.Forall₂ Exact.DoneBy officialExacts officialMatches.rules := by
  refine .cons ?field (.cons ?block (.cons ?loop (.cons ?message .nil)))
  case field => exact Rule.Rewrites.literal.apply_eq split_spares_oldField.1.ne_nil
  case block => exact Rule.Rewrites.block.apply_eq split_spares_oldField.1.symm.ne_nil
  case loop => exact doneBy_plainRegex (by decide +kernel) (by decide +kernel) (by decide) (by decide)
  case message =>
    exact doneBy_plainRegex (by decide +kernel) (by decide +kernel) (by decide) (by decide)

/-! ## What the rules clear -/

theorem oldField_cleared : Exact.Clears oldField officialExacts := by
  refine .here (apart_ofList (by decide +kernel)) ?_
  intro exact member
  simp only [List.mem_cons, List.not_mem_nil, or_false] at member
  rcases member with rfl | rfl | rfl
  · exact split_spares_oldField
  · exact ⟨apart_ofList (by decide +kernel), apart_ofList (by decide +kernel)⟩
  · exact ⟨apart_ofList (by decide +kernel), apart_ofList (by decide +kernel)⟩

theorem oldLoop_cleared : Exact.Clears oldLoop officialExacts := by
  refine .later (.later (.here (apart_ofList (by decide +kernel)) ?_))
  intro exact member
  cases List.mem_singleton.1 member
  exact ⟨apart_ofList (by decide +kernel), apart_ofList (by decide +kernel)⟩

theorem oldMessage_cleared : Exact.Clears oldMessage officialExacts :=
  .later (.later (.later (.here (apart_ofList (by decide +kernel)) nofun)))

/-- Each target of the set is cleared, or has a part that is. -/
theorem officialExacts_cleared : ∀ exact ∈ officialExacts,
    ∃ part : String, part.toList <:+: exact.old.toList ∧ Exact.Clears part officialExacts := by
  intro exact member
  simp only [officialExacts, List.mem_cons, List.not_mem_nil, or_false] at member
  rcases member with rfl | rfl | rfl | rfl
  · exact ⟨oldField, List.infix_rfl, oldField_cleared⟩
  · exact ⟨oldLoop, oldLoop_infix_preamble, oldLoop_cleared⟩
  · exact ⟨oldLoop, List.infix_rfl, oldLoop_cleared⟩
  · exact ⟨oldMessage, List.infix_rfl, oldMessage_cleared⟩

/-- The set runs on every buffer, and a second run on what it has left finds none of the four
targets and changes nothing. -/
theorem officialMatches_settles (hints others : Bool) (buffer : String) :
    ∃ first second, Run.apply hints buffer officialMatches.rules = .ok first ∧
      Run.apply others first.buffer officialMatches.rules = .ok second ∧
      second.buffer = first.buffer ∧
      second.records.map (·.outcome) = [.noMatch, .noMatch, .noMatch, .noMatch] :=
  Run.exists_apply_twice doneBy_officialExacts officialExacts_cleared hints others buffer

end Emend.BuiltIn
