import Emend.Proofs.PlainPatterns
import Emend.Proofs.RunSteps
import Emend.Proofs.TextSearch

/-! # Patterns in place of texts

An exact text can be looked for by a pattern and written by a template, if both are written so that
nothing in them has a meaning of its own. The rule then does what the exact rule does that replaces
every occurrence, although the two share neither the search nor the way of writing.
-/

namespace Emend

open Text

namespace Regex

def plainTemplate (text : List Char) : List Char :=
  text.flatMap fun c => if c = '$' then ['$', '$'] else [c]

theorem parse_plainTemplate (text : List Char) :
    TemplatePart.parse 0 (plainTemplate text) = text.map .char := by
  induction text with
  | nil => rfl
  | cons c rest ih =>
      by_cases dollar : c = '$'
      · subst dollar
        have doubled : plainTemplate ('$' :: rest) = '$' :: '$' :: plainTemplate rest := rfl
        simp [doubled, TemplatePart.parse, ih]
      · have single : plainTemplate (c :: rest) = c :: plainTemplate rest := by
          simp [plainTemplate, dollar]
        simp [single, TemplatePart.parse, dollar, ih]

theorem expand_chars (r : Regex) (text : List Char) (m : Match) :
    r.expand (text.map .char) m = text := by
  simp [expand, List.flatMap_map, TemplatePart.expand]

end Regex

namespace Rule

/-- The rule that looks for a text by its pattern and writes another by its template. -/
def plainRegex (old new : String) : Rule :=
  .regex (String.ofList (Regex.plainPattern old.toList))
    (String.ofList (Regex.plainTemplate new.toList)) .none

variable {old : String}

theorem replaceMatches_ofText (filled : old.toList ≠ []) (new buffer : String) :
    replaceMatches (Regex.ofText old.toList) (String.ofList (Regex.plainTemplate new.toList)) buffer =
      replaceText .all old new buffer := by
  have counted := Regex.count_ofText filled buffer.toList
  cases found : cut? old.toList buffer.toList with
  | none =>
      rw [occurrences_of_cut?_eq_none found] at counted
      simp only [replaceMatches, counted, replaceText, found]
  | some parts =>
      obtain ⟨before, rest⟩ := parts
      have several := occurrences_of_cut?_eq_some filled found
      simp only [replaceMatches, counted, several, replaceText, found,
        Regex.replaceAll_ofText filled, String.toList_ofList, Regex.parse_plainTemplate,
        Regex.expand_chars]

/-- The pattern of a text compiles to the search for the text, unless it is too long. -/
theorem compilePattern_plain (filled : old.toList ≠ []) :
    compilePattern (String.ofList (Regex.plainPattern old.toList)) .none =
      if 32 * (Regex.Expr.word .forward old.toList).length + 208 ≤ Regex.sizeLimit then
        .ok (Regex.ofText old.toList)
      else .error (.invalidPattern (String.ofList (Regex.plainPattern old.toList))
        (.tooLarge Regex.sizeLimit)) := by
  simp only [compilePattern, Regex.compile_plainPattern filled, Regex.fits_literal_iff filled]
  split <;> rfl

theorem validate_plainRegex (filled : old.toList ≠ []) (new : String) :
    (plainRegex old new).validate =
      if 32 * (Regex.Expr.word .forward old.toList).length + 208 ≤ Regex.sizeLimit then .ok ()
      else .error (.invalidPattern (String.ofList (Regex.plainPattern old.toList))
        (.tooLarge Regex.sizeLimit)) := by
  simp only [plainRegex, validate, compilePattern_plain filled]
  split <;> rfl

theorem apply_plainRegex (filled : old.toList ≠ [])
    (short : 32 * (Regex.Expr.word .forward old.toList).length + 208 ≤ Regex.sizeLimit)
    (new buffer : String) :
    (plainRegex old new).apply buffer = .ok (replaceText .all old new buffer) := by
  simp only [plainRegex, apply, compilePattern_plain filled, short, if_true]
  exact congrArg Except.ok (replaceMatches_ofText filled new buffer)

/-- A text is looked for alike by an exact rule and by a pattern. The pattern is always one, and
is refused only if it is too large; else both rules come to the same buffer and the same outcome on
every buffer. -/
theorem plainRegex_agrees_with_literal (old new : String) (nonempty : old ≠ "") :
    ((plainRegex old new).validate = .ok () ∨
      (plainRegex old new).validate =
        .error (.invalidPattern (String.ofList (Regex.plainPattern old.toList))
          (.tooLarge Regex.sizeLimit))) ∧
    ((plainRegex old new).validate = .ok () → ∀ buffer, ∃ application,
      (plainRegex old new).apply buffer = .ok application ∧
        (literal old new .all).apply buffer = .ok application) := by
  have filled : old.toList ≠ [] := by simpa using nonempty
  have checked := validate_plainRegex filled new
  by_cases short : 32 * (Regex.Expr.word .forward old.toList).length + 208 ≤ Regex.sizeLimit
  · rw [if_pos short] at checked
    refine ⟨.inl checked, fun _ buffer => ⟨_, apply_plainRegex filled short new buffer, ?_⟩⟩
    simp only [apply, nonempty, if_false]
  · rw [if_neg short] at checked
    refine ⟨.inr checked, fun valid => ?_⟩
    cases checked.symm.trans valid

/-- The target overlaps itself and has nothing but characters with a meaning of their own. -/
theorem plainRegex_metacharacters :
    plainRegex "$^$" "$1" = .regex "\\$\\^\\$" "$$1" .none ∧ "$^$" ≠ "" ∧
      (plainRegex "$^$" "$1").validate = .ok () ∧
      (plainRegex "$^$" "$1").apply "$^$^$$^$" = .ok ⟨"$1^$$1", .applied 2⟩ := by
  have nonempty : "$^$" ≠ "" := by decide
  have valid : (plainRegex "$^$" "$1").validate = .ok () := by
    rw [validate_plainRegex (by decide)]
    exact if_pos (by decide)
  have exact : (literal "$^$" "$1" .all).apply "$^$^$$^$" = .ok ⟨"$1^$$1", .applied 2⟩ :=
    eq_ok_of_toOption (by decide +kernel)
  obtain ⟨application, byPattern, byText⟩ :=
    (plainRegex_agrees_with_literal "$^$" "$1" nonempty).2 valid "$^$^$$^$"
  cases exact.symm.trans byText
  exact ⟨by decide, nonempty, valid, byPattern⟩

end Rule

end Emend
