import Emend.Diff.Unified
import Emend.Text.Occurrence

/-! # Reading unified diffs

A patch is a unified diff as a reader takes it, who knows the format and not how the diff was made.
A hunk lies where its header says. Its lines can be applied by their place in the old text alone, or
the rest of the header can be held against them too: how many lines the hunk has of both texts, and
its place in the new one.
-/

namespace Emend.Diff

/-- Lines of a text, as the header of a hunk gives them. -/
structure Span where
  /-- The number of lines before them. -/
  place : Nat
  count : Nat
  deriving Repr, DecidableEq

/-- A hunk as it is read. -/
structure PatchHunk where
  old : Span
  new : Span
  lines : List (LineMark × List Char)
  deriving Repr, DecidableEq

/-- The lines that are in the first text: those that both have, and those removed. -/
def oldOf (lines : List (LineMark × List Char)) : List (List Char) :=
  (lines.filter (·.1 != .added)).map Prod.snd

/-- The lines that are in the second text: those that both have, and those added. -/
def newOf (lines : List (LineMark × List Char)) : List (List Char) :=
  (lines.filter (·.1 != .removed)).map Prod.snd

namespace Patch

/-! ## Reading -/

/-- Reads a decimal number, and gives the text behind it. -/
def readNumber? (text : List Char) : Option (Nat × List Char) :=
  let digits := text.takeWhile Char.isDigit
  if digits.isEmpty then none
  else some (Nat.ofDigitChars 10 digits 0, text.dropWhile Char.isDigit)

/-- Reads the range of some lines: the number of the first one, or of the one before if there are
none, and how many they are unless it is one. -/
def readSpan? (text : List Char) : Option (Span × List Char) := do
  let (start, text) ← readNumber? text
  match text with
  | ',' :: text =>
      let (count, text) ← readNumber? text
      return (⟨if count = 0 then start else start - 1, count⟩, text)
  | text => return (⟨start - 1, 1⟩, text)

def readHeader? (line : List Char) : Option (Span × Span) := do
  let text ← Text.after? ['@', '@', ' ', '-'] line
  let (old, text) ← readSpan? text
  let text ← Text.after? [' ', '+'] text
  let (new, text) ← readSpan? text
  if text = [' ', '@', '@', '\n'] then some (old, new) else none

def readMark? : Char → Option LineMark
  | ' ' => some .same
  | '-' => some .removed
  | '+' => some .added
  | _ => none

/-- Reads the lines of hunks: those before the first header, and the hunks. -/
def readHunks? : List (List Char) → Option (List (LineMark × List Char) × List PatchHunk)
  | [] => some ([], [])
  | line :: rest => do
      let (lines, hunks) ← readHunks? rest
      match line with
      | '@' :: _ =>
          let (old, new) ← readHeader? line
          return ([], ⟨old, new, lines⟩ :: hunks)
      | sign :: text =>
          let mark ← readMark? sign
          return ((mark, text) :: lines, hunks)
      | [] => none

/-- What is written behind a line to say that its end is not of the text. -/
def unendedNote : List Char := "\\ No newline at end of file\n".toList

/-- Takes the notes out, and the line ends that they are about. -/
def dropNotes : List (List Char) → List (List Char)
  | [] => []
  | [line] => [line]
  | line :: next :: rest =>
      if next = unendedNote then line.dropLast :: dropNotes rest
      else line :: dropNotes (next :: rest)

/-- Reads a unified diff for a file. -/
def read? (name text : String) : Option (List PatchHunk) := do
  let body ← Text.after?
    ("--- " ++ name ++ " (original)\n+++ " ++ name ++ " (patched)\n").toList text.toList
  match ← readHunks? (dropNotes (Text.endedLines body)) with
  | ([], hunks) => some hunks
  | _ => none

/-! ## Applying -/

/-- Whether the header of a hunk counts its lines, and tells their place in the new text. -/
def Counted (hunk : PatchHunk) (newAt : Nat) : Prop :=
  hunk.old.count = (oldOf hunk.lines).length ∧ hunk.new = ⟨newAt, (newOf hunk.lines).length⟩

instance (hunk : PatchHunk) (newAt : Nat) : Decidable (Counted hunk newAt) :=
  inferInstanceAs (Decidable (_ ∧ _))

/-- Applies hunks to the lines `rest` of a text, before which there are `oldAt` others, of which
`newAt` lines have been made. No hunk may lie before these lines or go beyond the end, and each has
to have the lines of the text that are at its place. If `strict`, the whole header has to be
true. -/
def applyFrom (strict : Bool) : (oldAt newAt : Nat) → (rest : List (List Char)) →
    List PatchHunk → Option (List (List Char))
  | _, _, rest, [] => some rest
  | oldAt, newAt, rest, hunk :: hunks =>
      let gap := hunk.old.place - oldAt
      let olds := oldOf hunk.lines
      let news := newOf hunk.lines
      if oldAt ≤ hunk.old.place ∧ gap ≤ rest.length ∧ olds <+: rest.drop gap ∧
          (strict = true → Counted hunk (newAt + gap)) then
        (applyFrom strict (hunk.old.place + olds.length) (newAt + gap + news.length)
          (rest.drop (gap + olds.length)) hunks).map fun behind =>
            rest.take gap ++ news ++ behind
      else none

/-- Applies a patch to a text. -/
def patched? (strict : Bool) (hunks : List PatchHunk) (text : String) : Option String :=
  (applyFrom strict 0 0 (Text.endedLines text.toList) hunks).map fun lines =>
    String.ofList lines.flatten

section Applying

variable {strict : Bool} {oldAt newAt : Nat} {gap rest result text : List (List Char)}
  {hunk : PatchHunk} {hunks : List PatchHunk}

theorem applyFrom_cons (place : hunk.old.place = oldAt + gap.length) :
    applyFrom false oldAt newAt (gap ++ (oldOf hunk.lines ++ rest)) (hunk :: hunks) =
      (applyFrom false (oldAt + gap.length + (oldOf hunk.lines).length)
        (newAt + gap.length + (newOf hunk.lines).length) rest hunks).map fun behind =>
          gap ++ (newOf hunk.lines ++ behind) := by
  have behind : (gap ++ (oldOf hunk.lines ++ rest)).drop (gap.length + (oldOf hunk.lines).length) =
      rest := by
    rw [← List.append_assoc, ← List.length_append, List.drop_left]
  simp [applyFrom, place, behind]

/-- Whether the headers of all hunks are true, from given places on. -/
def AllCounted : (oldAt newAt : Nat) → List PatchHunk → Prop
  | _, _, [] => True
  | oldAt, newAt, hunk :: hunks =>
      let gap := hunk.old.place - oldAt
      Counted hunk (newAt + gap) ∧
        AllCounted (hunk.old.place + (oldOf hunk.lines).length)
          (newAt + gap + (newOf hunk.lines).length) hunks

theorem allCounted_cons (place : hunk.old.place = oldAt + gap.length) :
    AllCounted oldAt newAt (hunk :: hunks) ↔
      Counted hunk (newAt + gap.length) ∧
        AllCounted (oldAt + gap.length + (oldOf hunk.lines).length)
          (newAt + gap.length + (newOf hunk.lines).length) hunks := by
  simp [AllCounted, place]

/-- A patch whose headers count can be applied if it can be by the places of its hunks alone and all
headers are true, and it makes no difference then. -/
theorem applyFrom_strict :
    applyFrom true oldAt newAt rest hunks = some result ↔
      applyFrom false oldAt newAt rest hunks = some result ∧ AllCounted oldAt newAt hunks := by
  induction hunks generalizing oldAt newAt rest result with
  | nil => simp [applyFrom, AllCounted]
  | cons hunk hunks ih =>
      simp only [applyFrom, AllCounted, reduceCtorEq, false_imp_iff, true_imp_iff, and_true]
      split
      · next fits =>
          obtain ⟨after, inside, same, counted⟩ := fits
          rw [if_pos ⟨after, inside, same⟩]
          simp only [Option.map_eq_some_iff, ih, counted, true_and, and_assoc]
          constructor
          · rintro ⟨behind, applied, counted, rfl⟩
            exact ⟨⟨behind, applied, rfl⟩, counted⟩
          · rintro ⟨⟨behind, applied, rfl⟩, counted⟩
            exact ⟨behind, applied, counted, rfl⟩
      · next misfit =>
          refine ⟨nofun, fun ⟨applied, counted, _⟩ => absurd ?_ misfit⟩
          split at applied
          · next fits => exact ⟨fits.1, fits.2.1, fits.2.2, counted⟩
          · cases applied

theorem fits_of_applyFrom
    (applied : applyFrom strict oldAt newAt (text.drop oldAt) hunks = some result) :
    (∀ hunk ∈ hunks, oldAt ≤ hunk.old.place ∧ oldOf hunk.lines <+: text.drop hunk.old.place) ∧
      hunks.Pairwise fun one two => one.old.place + (oldOf one.lines).length ≤ two.old.place := by
  induction hunks generalizing oldAt newAt result with
  | nil => exact ⟨nofun, .nil⟩
  | cons hunk hunks ih =>
      simp only [applyFrom] at applied
      split at applied
      · next fits =>
          obtain ⟨after, _, same, _⟩ := fits
          obtain ⟨behind, applied, -⟩ := Option.map_eq_some_iff.1 applied
          rw [List.drop_drop, ← Nat.add_assoc, Nat.add_sub_cancel' after] at applied
          rw [List.drop_drop, Nat.add_sub_cancel' after] at same
          obtain ⟨later, apart⟩ := ih applied
          refine ⟨List.forall_mem_cons.2 ⟨⟨after, same⟩, fun next seen => ?_⟩, .cons ?_ apart⟩
          · obtain ⟨behind, same⟩ := later next seen
            exact ⟨by omega, same⟩
          · exact fun next seen => (later next seen).1
      · cases applied

theorem patched?_of_applyFrom {text : String}
    (applied : applyFrom false 0 0 (Text.endedLines text.toList) hunks = some result) :
    patched? false hunks text = some (String.ofList result.flatten) := by
  rw [patched?, applied, Option.map_some]

theorem patched?_strict_iff {text : String}
    (applied : applyFrom false 0 0 (Text.endedLines text.toList) hunks = some result) :
    patched? true hunks text = some (String.ofList result.flatten) ↔ AllCounted 0 0 hunks := by
  constructor
  · intro strict
    obtain ⟨lines, applied, _⟩ := Option.map_eq_some_iff.1 strict
    exact (applyFrom_strict.1 applied).2
  · intro counted
    rw [patched?, applyFrom_strict.2 ⟨applied, counted⟩, Option.map_some]

theorem fits_of_patched? {text patched : String}
    (accepted : patched? strict hunks text = some patched) :
    (∀ hunk ∈ hunks, oldOf hunk.lines <+: (Text.endedLines text.toList).drop hunk.old.place) ∧
      hunks.Pairwise fun one two => one.old.place + (oldOf one.lines).length ≤ two.old.place := by
  obtain ⟨lines, applied, _⟩ := Option.map_eq_some_iff.1 accepted
  rw [← List.drop_zero (l := Text.endedLines text.toList)] at applied
  obtain ⟨fits, apart⟩ := fits_of_applyFrom applied
  exact ⟨fun hunk seen => (fits hunk seen).2, apart⟩

end Applying

end Patch

end Emend.Diff
