/-! # Occurrences of a target in a text

A target is looked for from left to right, and the next search starts behind the
occurrence found last. A text is therefore the pieces between those occurrences,
joined by the target again.
-/

namespace Emend.Text

/-- What follows `target` in `text`, when `text` starts with it. -/
def after? : (target text : List Char) → Option (List Char)
  | [], text => some text
  | _ :: _, [] => none
  | t :: target, c :: text => if t = c then after? target text else none

/-- The text before and behind the leftmost occurrence of `target`. -/
def cut? (target : List Char) : (text : List Char) → Option (List Char × List Char)
  | [] => (after? target []).map fun rest => ([], rest)
  | c :: text =>
      match after? target (c :: text) with
      | some rest => some ([], rest)
      | none => (cut? target text).map fun (before, rest) => (c :: before, rest)

theorem eq_append_of_after? {target text rest : List Char} (h : after? target text = some rest) :
    text = target ++ rest := by
  induction target generalizing text with
  | nil => simpa [after?] using h
  | cons t target ih =>
      cases text with
      | nil => simp [after?] at h
      | cons c text =>
          simp only [after?] at h
          split at h
          · next heq => rw [ih h, heq]; rfl
          · cases h

@[simp]
theorem after?_append (target rest : List Char) : after? target (target ++ rest) = some rest := by
  induction target with
  | nil => rfl
  | cons t target ih => simp [after?, ih]

theorem eq_append_of_cut? {target text before rest : List Char}
    (h : cut? target text = some (before, rest)) : text = before ++ target ++ rest := by
  induction text generalizing before with
  | nil =>
      obtain ⟨r, hr, heq⟩ := Option.map_eq_some_iff.1 h
      cases heq
      simpa using eq_append_of_after? hr
  | cons c text ih =>
      simp only [cut?] at h
      split at h
      · next r hr => cases h; simpa using eq_append_of_after? hr
      · next hr =>
          obtain ⟨⟨b, r⟩, hb, heq⟩ := Option.map_eq_some_iff.1 h
          cases heq
          rw [ih hb]
          rfl

/-- The pieces of `text` between the successive occurrences of `target`. A text
without the target, or an empty target, gives the text as its only piece. -/
def pieces (target text : List Char) : List (List Char) :=
  if _hne : target = [] then [text]
  else
    match _h : cut? target text with
    | none => [text]
    | some (before, rest) => before :: pieces target rest
termination_by text.length
decreasing_by
  have := List.length_pos_iff.2 _hne
  rw [eq_append_of_cut? _h]
  simp only [List.length_append]
  omega

/-- The number of successive occurrences of `target` in `text`. -/
def occurrences (target text : List Char) : Nat :=
  (pieces target text).length - 1

/-- Writes `new` in place of every successive occurrence of `target`. -/
def replaceAll (target new text : List Char) : List Char :=
  new.intercalate (pieces target text)

end Emend.Text
