import Emend.Proofs.RunSteps
import Emend.Proofs.SuccessiveMatches

/-! # What rules with patterns do

A rule with a pattern writes its template over each of the successive matches of the pattern, with
what was recorded for that match, and keeps everything between them. It counts the matches that a
search finds which records nothing.
-/

namespace Emend

namespace Regex

/-- A text from a place on, with something written in place of each of its matches. -/
def writeOver (text : List Char) (write : Match → List Char) (place : Nat) : List Hit → List Char
  | [] => text.drop place
  | hit :: more =>
      (text.drop place).take (hit.start - place) ++ write (hit.toMatch text) ++
        writeOver text write hit.stop more

variable {text : List Char} {segments : List Segment} {place : Nat}

theorem hitsFrom_behind (segments : List Segment) (place : Nat) :
    ∀ hit ∈ (hitsFrom place segments).head?, place ≤ hit.start := by
  induction segments generalizing place with
  | nil =>
      intro hit member
      cases member
  | cons segment rest ih =>
      intro hit member
      cases segment with
      | kept c => exact Nat.le_of_succ_le (ih (place + 1) hit member)
      | found m =>
          cases member
          exact Nat.le_refl place

theorem length_hitsFrom (segments : List Segment) (place : Nat) :
    (hitsFrom place segments).length = segments.countP Segment.isMatch := by
  induction segments generalizing place with
  | nil => rfl
  | cons segment rest ih =>
      cases segment with
      | kept c =>
          rw [hitsFrom, ih, List.countP_cons_of_neg (by simp [Segment.isMatch])]
      | found m =>
          rw [hitsFrom, List.length_cons, ih, List.countP_cons_of_pos (by simp [Segment.isMatch])]

theorem writeOver_of_kept (write : Match → List Char) {c : Char} {hits : List Hit}
    (here : text.drop place = c :: text.drop (place + 1))
    (behind : ∀ hit ∈ hits.head?, place + 1 ≤ hit.start) :
    writeOver text write place hits = c :: writeOver text write (place + 1) hits := by
  cases hits with
  | nil => exact here
  | cons hit more =>
      have later : place + 1 ≤ hit.start := behind hit rfl
      have gap : hit.start - place = hit.start - (place + 1) + 1 := by omega
      simp only [writeOver, here, gap, List.take_succ_cons, List.cons_append]

/-- Segments are written as the text that they are cut from, but for the matches. -/
theorem writeOver_hitsFrom (write : Match → List Char)
    (cut : text.drop place = segments.flatMap Segment.text) :
    writeOver text write place (hitsFrom place segments) =
      segments.flatMap fun
        | .kept c => [c]
        | .found m => write m := by
  induction segments generalizing place with
  | nil => exact cut
  | cons segment rest ih =>
      cases segment with
      | kept c =>
          have here : text.drop place = c :: rest.flatMap Segment.text := cut
          have behind : text.drop (place + 1) = rest.flatMap Segment.text := by
            rw [← List.tail_drop, here, List.tail_cons]
          rw [← behind] at here
          have first := writeOver_of_kept write here (hitsFrom_behind rest (place + 1))
          rw [ih behind] at first
          exact first
      | found m =>
          have here : text.drop place = m.text ++ rest.flatMap Segment.text := cut
          have behind : text.drop (place + m.text.length) = rest.flatMap Segment.text := by
            rw [← List.drop_drop, here, List.drop_left]
          have same : Hit.toMatch text ⟨place, m.text.length, m.slots⟩ = m := by
            simp [Hit.toMatch, here]
          simp only [hitsFrom, writeOver, Nat.sub_self, List.take_zero, List.nil_append, same,
            Hit.stop, ih behind, List.flatMap_cons]

theorem successive_hitsFrom (p : Program) (text : List Char) :
    p.Successive text 0 none (hitsFrom 0 (p.segments none false 0 text)) := by
  have ends : Program.EndsAt false none 0 := by
    intro stop same
    cases same
  exact Program.successive_segments (List.nil_append text).symm (Nat.zero_le _) ends

theorem successive_split (r : Regex) (text : List Char) :
    r.program.Successive text 0 none (hitsFrom 0 (r.split text)) :=
  successive_hitsFrom r.program text

/-- Counting without recording gives the number of the matches that are recorded. -/
theorem count_eq_length {r : Regex} {hits : List Hit}
    (found : r.program.Successive text 0 none hits) : r.count text = hits.length := by
  have same : hitsFrom 0 (r.program.bare.segments none false 0 text) = hits.map Hit.bare :=
    (successive_hitsFrom r.program.bare text).unique found.bare
  rw [count, ← length_hitsFrom _ 0, same, List.length_map]

theorem writeOver_split (r : Regex) (write : Match → List Char) (text : List Char) :
    writeOver text write 0 (hitsFrom 0 (r.split text)) =
      (r.split text).flatMap fun
        | .kept c => [c]
        | .found m => write m :=
  writeOver_hitsFrom write (r.program.flatMap_text_segments none false 0 text).symm

theorem writeOver_text (r : Regex) (text : List Char) :
    writeOver text Match.text 0 (hitsFrom 0 (r.split text)) = text := by
  have same : (fun
      | .kept c => [c]
      | .found m => m.text) = Segment.text := by
    funext segment
    cases segment <;> rfl
  rw [writeOver_split, same]
  exact r.program.flatMap_text_segments none false 0 text

theorem expand_wholeMatch (r : Regex) (m : Match) :
    r.expand (TemplatePart.parse 0 "$0".toList) m = m.text := by
  have parsed : TemplatePart.parse 0 "$0".toList = [.number 0] := by decide
  rw [parsed]
  exact List.append_nil m.text

end Regex

namespace Rule

open Regex

/-- The matches of a buffer and what a rule makes of them. -/
structure RewritesMatches (r : Regex) (template buffer : String) (hits : List Hit)
    (application : Application) : Prop where
  /-- They are found one after the other, -/
  successive : r.program.Successive buffer.toList 0 none hits
  /-- which determines them. -/
  unique : ∀ others, r.program.Successive buffer.toList 0 none others → others = hits
  /-- A search that records nothing finds them at the same places. -/
  bare : r.program.bare.Successive buffer.toList 0 none (hits.map Hit.bare)
  /-- They and what lies between them are the buffer. -/
  whole : writeOver buffer.toList Match.text 0 hits = buffer.toList
  /-- Without a match the buffer stays; otherwise each match is written under the template. -/
  written : application =
    if hits = [] then .unchanged buffer
    else ⟨String.ofList (writeOver buffer.toList (r.expand (TemplatePart.parse 0 template.toList)) 0
      hits), .applied hits.length⟩

theorem replaceMatches_eq (r : Regex) (template buffer : String) :
    replaceMatches r template buffer =
      if hitsFrom 0 (r.split buffer.toList) = [] then .unchanged buffer
      else ⟨String.ofList (r.replaceAll (TemplatePart.parse 0 template.toList) buffer.toList),
        .applied (hitsFrom 0 (r.split buffer.toList)).length⟩ := by
  have counted := count_eq_length (successive_split r buffer.toList)
  simp only [replaceMatches, counted]
  cases hitsFrom 0 (r.split buffer.toList) with
  | nil => rfl
  | cons hit more => simp

theorem rewritesMatches_replaceMatches (r : Regex) (template buffer : String) :
    RewritesMatches r template buffer (hitsFrom 0 (r.split buffer.toList))
      (replaceMatches r template buffer) where
  successive := successive_split r buffer.toList
  unique := fun _ found => found.unique (successive_split r buffer.toList)
  bare := (successive_split r buffer.toList).bare
  whole := writeOver_text r buffer.toList
  written := by
    rw [writeOver_split]
    exact replaceMatches_eq r template buffer

theorem RewritesMatches.buffer_of_wholeMatch {r : Regex} {buffer : String} {hits : List Hit}
    {application : Application} (rewrites : RewritesMatches r "$0" buffer hits application) :
    application.buffer = buffer := by
  have kept : r.expand (TemplatePart.parse 0 "$0".toList) = Match.text :=
    funext (expand_wholeMatch r)
  rw [rewrites.written, kept, rewrites.whole]
  split
  · rfl
  · exact String.ofList_toList

/-- A rule whose pattern compiles touches nothing but the matches of the pattern, which it counts.
Each of them becomes the template with what was recorded for it, and under the template of the
whole match every buffer stays as it is. -/
theorem regex_rewrites_matches (pattern template : String) (flags : Regex.Flags) (buffer : String) :
    (∃ reason, Regex.compile pattern flags = .error reason ∧
      (regex pattern template flags).apply buffer = .error (.invalidPattern pattern reason)) ∨
    ∃ r hits application, Regex.compile pattern flags = .ok r ∧
      (regex pattern template flags).apply buffer = .ok application ∧
      RewritesMatches r template buffer hits application ∧
      ∃ outcome, (regex pattern "$0" flags).apply buffer = .ok ⟨buffer, outcome⟩ := by
  cases compiled : Regex.compile pattern flags with
  | error reason =>
      refine .inl ⟨reason, rfl, ?_⟩
      simp only [apply, compilePattern, compiled]
      rfl
  | ok r =>
      have applied (template : String) :
          (regex pattern template flags).apply buffer = .ok (replaceMatches r template buffer) := by
        simp only [apply, compilePattern, compiled]
        rfl
      have whole := (rewritesMatches_replaceMatches r "$0" buffer).buffer_of_wholeMatch
      refine .inr ⟨r, _, _, rfl, applied template, rewritesMatches_replaceMatches r template buffer,
        (replaceMatches r "$0" buffer).outcome, ?_⟩
      rw [applied "$0"]
      exact congrArg (fun text => Except.ok (Application.mk text _)) whole

/-- Empty matches stand beside others, and one right behind a match does not count. -/
example : ((regex "(a)|b*" "[$1]" .none).apply "xab").toOption =
    some ⟨"[]x[a][]", .applied 3⟩ := by
  decide +kernel

end Rule

end Emend
