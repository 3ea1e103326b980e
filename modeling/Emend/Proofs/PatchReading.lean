import Emend.Proofs.HunkPlaces

/-! # Reading what is written

A unified diff is read as the hunks that it was written for. Lines may end in a line feed, a
carriage return or both, and the last one of a text need not end at all: then it is written with a
line feed and a note behind it.
-/

namespace Emend.Text

variable {c : Char} {text line rest : List Char}

/-- Whatever follows, a line is cut off here. Only a line feed could still belong to it. -/
def IsLine (line : List Char) : Prop :=
  ∀ rest, rest.head? ≠ some '\n' → endedLines (line ++ rest) = line :: endedLines rest

theorem endedLines_cons (feed : c ≠ '\n') (back : c ≠ '\r') :
    endedLines (c :: text) = consLine c (endedLines text) := by
  rw [endedLines]
  · exact fun _ same _ => back same
  · exact feed
  · exact back

theorem isLine_feed : IsLine ['\n'] := fun _ _ => rfl

theorem IsLine.cons (isLine : IsLine line) (feed : c ≠ '\n') (back : c ≠ '\r') :
    IsLine (c :: line) := by
  intro rest other
  rw [List.cons_append, endedLines_cons feed back, isLine rest other, consLine]

theorem isLine_append_feed (plain : ∀ c ∈ text, c ≠ '\n' ∧ c ≠ '\r') : IsLine (text ++ ['\n']) := by
  induction text with
  | nil => exact isLine_feed
  | cons c text ih =>
      obtain ⟨⟨feed, back⟩, plain⟩ := List.forall_mem_cons.1 plain
      exact (ih plain).cons feed back

end Emend.Text

namespace Emend.Diff

open Text

variable {c : Char} {text line : List Char} {lines : List (List Char)} {hunk : Hunk}
  {hs : List Hunk}

/-! ## Lines and notes -/

/-- A line with an end, which is a line feed if it has none. -/
def supplied (line : List Char) : List Char := if isUnended line then line ++ ['\n'] else line

/-- A line as it is written. -/
def written (line : List Char) : List Char :=
  supplied line ++ if isUnended line then Patch.unendedNote else []

theorem isUnended_cons (feed : c ≠ '\n') (back : c ≠ '\r') :
    isUnended (c :: line) = isUnended line := by
  cases line with
  | nil =>
      change isUnended [c] = true
      simp only [isUnended, List.getLast?_singleton, Bool.and_eq_true, bne_iff_ne, ne_eq,
        Option.some.injEq]
      exact ⟨feed, back⟩
  | cons d line => simp only [isUnended, List.getLast?_cons_cons]

theorem supplied_cons (feed : c ≠ '\n') (back : c ≠ '\r') :
    supplied (c :: line) = c :: supplied line := by
  simp only [supplied, isUnended_cons feed back]
  split <;> rfl

/-- Every line of a text is a line of any text, if it has an end. -/
theorem isLine_supplied (text : List Char) : ∀ line ∈ endedLines text, IsLine (supplied line) := by
  fun_induction endedLines text with
  | case1 => simp
  | case2 text ih => exact List.forall_mem_cons.2 ⟨fun _ _ => rfl, ih⟩
  | case3 text ih => exact List.forall_mem_cons.2 ⟨fun _ _ => rfl, ih⟩
  | case4 text other ih =>
      refine List.forall_mem_cons.2 ⟨fun rest next => ?_, ih⟩
      cases rest with
      | nil => rfl
      | cons d rest =>
          have other : d ≠ '\n' := by simpa using next
          change endedLines ('\r' :: d :: rest) = _
          rw [endedLines]
          · rfl
          · exact fun _ same => other (List.cons.inj same).1
  | case5 c text pair feed back ih =>
      have line {line : List Char} (isLine : IsLine (supplied line)) :
          IsLine (supplied (c :: line)) := by
        rw [supplied_cons feed back]
        exact isLine.cons feed back
      cases shape : endedLines text with
      | nil => exact List.forall_mem_singleton.2 (line isLine_feed)
      | cons first rest =>
          rw [shape] at ih
          obtain ⟨isLine, ih⟩ := List.forall_mem_cons.1 ih
          exact List.forall_mem_cons.2 ⟨line isLine, ih⟩

/-- A line that is written is read again, and is not taken for a note. -/
structure Readable (line : List Char) : Prop where
  isLine : IsLine (supplied line)
  starts : ∃ c text, line = c :: text ∧ c ≠ '\n' ∧ c ≠ '\\'

theorem unendedNote_eq : Patch.unendedNote = "\\ No newline at end of file".toList ++ ['\n'] := rfl

theorem head_unendedNote : Patch.unendedNote.head? = some '\\' := rfl

theorem isLine_unendedNote : IsLine Patch.unendedNote := by
  rw [unendedNote_eq]
  exact isLine_append_feed (by simp)

theorem Readable.head_written (readable : Readable line) (rest : List Char) :
    ∃ c, (written line ++ rest).head? = some c ∧ c ≠ '\n' ∧ c ≠ '\\' := by
  obtain ⟨c, text, rfl, plain⟩ := readable.starts
  refine ⟨c, ?_, plain⟩
  simp only [written, supplied]
  split <;> rfl

theorem dropNotes_written (readable : ∀ line ∈ lines, Readable line) :
    Patch.dropNotes (endedLines (lines.flatMap written)) = lines := by
  induction lines with
  | nil => rfl
  | cons line lines ih =>
      obtain ⟨⟨isLine, _⟩, readable⟩ := List.forall_mem_cons.1 readable
      have ih := ih readable
      have next : ∀ c ∈ (lines.flatMap written).head?, c ≠ '\n' ∧ c ≠ '\\' := by
        cases lines with
        | nil => exact nofun
        | cons next lines =>
            obtain ⟨c, head, plain⟩ := (List.forall_mem_cons.1 readable).1.head_written
              (lines.flatMap written)
            rw [List.flatMap_cons, head]
            exact fun d same => Option.some.inj same ▸ plain
      have feed : (lines.flatMap written).head? ≠ some '\n' := fun same => (next _ same).1 rfl
      rw [List.flatMap_cons]
      by_cases unended : isUnended line
      · have line_eq : supplied line = line ++ ['\n'] := if_pos unended
        have back : (Patch.unendedNote ++ lines.flatMap written).head? ≠ some '\n' := by
          rw [List.head?_append, head_unendedNote]
          simp
        rw [written, if_pos unended, List.append_assoc, isLine _ back, isLine_unendedNote _ feed,
          Patch.dropNotes, if_pos rfl, ih, line_eq, List.dropLast_concat]
      · have line_eq : supplied line = line := if_neg unended
        rw [line_eq] at isLine
        rw [written, if_neg unended, line_eq, List.append_nil, isLine _ feed]
        cases shape : endedLines (lines.flatMap written) with
        | nil =>
            rw [shape] at ih
            rw [← ih]
            rfl
        | cons first rest =>
            -- No note follows: what comes next begins with a sign or as a header does.
            have other : first ≠ Patch.unendedNote := by
              rintro rfl
              have whole := flatten_endedLines (lines.flatMap written)
              rw [shape] at whole
              exact (next '\\' (by rw [← whole]; rfl)).2 rfl
            rw [Patch.dropNotes, if_neg other, ← shape, ih]

/-! ## Headers -/

theorem toList_toString (n : Nat) : (toString n).toList = Nat.toDigits 10 n := by
  rw [Nat.toString_eq_ofList_toDigits, String.toList_ofList]

theorem toList_rangeText (start stop : Nat) :
    (rangeText start stop).toList =
      if stop - start = 1 then Nat.toDigits 10 (start + 1)
      else Nat.toDigits 10 (if stop - start = 0 then start else start + 1) ++
        ',' :: Nat.toDigits 10 (stop - start) := by
  rw [rangeText]
  split
  · rw [toList_toString]
  · simp

theorem readNumber?_append (n : Nat) {rest : List Char}
    (stop : ∀ c ∈ rest.head?, c.isDigit = false) :
    Patch.readNumber? (Nat.toDigits 10 n ++ rest) = some (n, rest) := by
  have digits : ∀ c ∈ Nat.toDigits 10 n, c.isDigit = true :=
    fun c => Nat.isDigit_of_mem_toDigits (by decide) (by decide)
  have taken : rest.takeWhile Char.isDigit = [] := by
    cases rest with
    | nil => rfl
    | cons c rest => simp [stop c rfl]
  have dropped : rest.dropWhile Char.isDigit = rest := by
    cases rest with
    | nil => rfl
    | cons c rest => simp [stop c rfl]
  rw [Patch.readNumber?, List.takeWhile_append_of_pos digits, List.dropWhile_append_of_pos digits,
    taken, dropped, List.append_nil, Nat.ofDigitChars_ten_toDigits]
  simp [Nat.toDigits_ne_nil]

theorem readSpan?_rangeText (start stop : Nat) (rest : List Char) :
    Patch.readSpan? ((rangeText start stop).toList ++ ' ' :: rest) =
      some (⟨start, stop - start⟩, ' ' :: rest) := by
  have blank : ∀ c ∈ (' ' :: rest).head?, c.isDigit = false := by simp
  rw [toList_rangeText]
  split
  · next one => simp [Patch.readSpan?, readNumber?_append _ blank, one]
  · next other =>
      have comma : ∀ c ∈ (',' :: (Nat.toDigits 10 (stop - start) ++ ' ' :: rest)).head?,
          c.isDigit = false := by simp
      rw [List.append_assoc, List.cons_append, Patch.readSpan?, readNumber?_append _ comma]
      simp only [Option.bind_eq_bind, Option.bind_some, readNumber?_append _ blank]
      by_cases none : stop - start = 0 <;> simp [none]

/-- The header gives the place of a hunk in both texts, and how many lines it is to have of them. -/
theorem hunkHeader_eq (filled : hunk ≠ []) :
    ∃ oldStop newStop,
      hunkHeader hunk = "@@ -" ++ rangeText (asRead hunk).old.place oldStop ++ " +" ++
        rangeText (asRead hunk).new.place newStop ++ " @@\n" ∧
      (asRead hunk).old = ⟨(asRead hunk).old.place, oldStop - (asRead hunk).old.place⟩ ∧
      (asRead hunk).new = ⟨(asRead hunk).new.place, newStop - (asRead hunk).new.place⟩ := by
  obtain ⟨first, more, rfl⟩ := List.exists_cons_of_ne_nil filled
  simp only [hunkHeader, asRead, hunkSpan, List.head?_cons, List.getLast?_cons]
  exact ⟨_, _, rfl, rfl, rfl⟩

theorem readHeader?_hunkHeader (filled : hunk ≠ []) :
    Patch.readHeader? (hunkHeader hunk).toList = some ((asRead hunk).old, (asRead hunk).new) := by
  obtain ⟨oldStop, newStop, header, old_eq, new_eq⟩ := hunkHeader_eq filled
  have text_eq : (hunkHeader hunk).toList = ['@', '@', ' ', '-'] ++
      ((rangeText (asRead hunk).old.place oldStop).toList ++ ' ' :: ('+' ::
        ((rangeText (asRead hunk).new.place newStop).toList ++ ' ' :: ['@', '@', '\n']))) := by
    simp [header]
  rw [text_eq, Patch.readHeader?, after?_append, Option.bind_eq_bind, Option.bind_some,
    readSpan?_rangeText, Option.bind_eq_bind, Option.bind_some]
  simp only [after?, if_true, Option.bind_some, readSpan?_rangeText]
  rw [← old_eq, ← new_eq]

theorem plain_rangeText (start stop : Nat) :
    ∀ c ∈ (rangeText start stop).toList, c ≠ '\n' ∧ c ≠ '\r' := by
  have digits (n : Nat) : ∀ c ∈ Nat.toDigits 10 n, c ≠ '\n' ∧ c ≠ '\r' := by
    intro c seen
    have digit := Nat.isDigit_of_mem_toDigits (by decide) (by decide) seen
    constructor <;> rintro rfl <;> cases digit
  rw [toList_rangeText]
  split
  · exact digits _
  · exact List.forall_mem_append.2 ⟨digits _, List.forall_mem_cons.2 ⟨by decide, digits _⟩⟩

theorem readable_hunkHeader (filled : hunk ≠ []) :
    Readable (hunkHeader hunk).toList ∧
      written (hunkHeader hunk).toList = (hunkHeader hunk).toList := by
  obtain ⟨oldStop, newStop, header, _⟩ := hunkHeader_eq filled
  have text_eq : (hunkHeader hunk).toList =
      "@@ -".toList ++ (rangeText (asRead hunk).old.place oldStop).toList ++
        " +".toList ++ (rangeText (asRead hunk).new.place newStop).toList ++
        " @@".toList ++ ['\n'] := by
    simp [header]
  have ended : isUnended (hunkHeader hunk).toList = false := by
    rw [text_eq, isUnended, List.getLast?_concat]
    rfl
  have same : supplied (hunkHeader hunk).toList = (hunkHeader hunk).toList := by
    simp [supplied, ended]
  refine ⟨⟨?_, '@', _, by rw [text_eq]; rfl, by decide, by decide⟩, by simp [written, same, ended]⟩
  rw [same, text_eq]
  refine isLine_append_feed ?_
  simp only [List.forall_mem_append]
  exact ⟨⟨⟨⟨by simp, plain_rangeText _ _⟩, by simp⟩, plain_rangeText _ _⟩, by simp⟩

/-! ## Hunks -/

/-- A line with its sign. -/
def signed (line : LineMark × List Char) : List Char := line.1.sign :: line.2

theorem plain_sign (mark : LineMark) : mark.sign ≠ '\n' ∧ mark.sign ≠ '\r' ∧ mark.sign ≠ '\\' := by
  cases mark <;> decide

theorem hunkLine_eq (line : LineMark × List Char) : hunkLine line = written (signed line) := by
  obtain ⟨feed, back, _⟩ := plain_sign line.1
  rw [written, signed, isUnended_cons feed back, supplied_cons feed back, hunkLine, supplied]
  split
  · simp [unendedNote_eq]
  · simp

theorem readable_signed {line : LineMark × List Char} (isLine : IsLine (supplied line.2)) :
    Readable (signed line) := by
  obtain ⟨feed, back, slash⟩ := plain_sign line.1
  refine ⟨?_, line.1.sign, line.2, rfl, feed, slash⟩
  rw [signed, supplied_cons feed back]
  exact isLine.cons feed back

/-- The lines of a hunk without notes. -/
def bareLines (hunk : Hunk) : List (List Char) :=
  (hunkHeader hunk).toList :: (hunk.flatMap Change.marked).map signed

theorem toList_hunkText (filled : hunk ≠ []) :
    (hunkText hunk).toList = (bareLines hunk).flatMap written := by
  rw [hunkText, bareLines, List.flatMap_cons, (readable_hunkHeader filled).2, String.toList_append,
    String.toList_ofList, List.flatMap_map]
  congr 1
  exact List.flatMap_congr fun line _ => hunkLine_eq line

theorem readHunks?_signed (marked : List (LineMark × List Char)) (rest : List (List Char)) :
    Patch.readHunks? (marked.map signed ++ rest) =
      (Patch.readHunks? rest).map fun (lines, hunks) => (marked ++ lines, hunks) := by
  induction marked with
  | nil => simp
  | cons line marked ih =>
      obtain ⟨mark, text⟩ := line
      rw [List.map_cons, List.cons_append, Patch.readHunks?, ih]
      cases Patch.readHunks? rest <;> cases mark <;> rfl

theorem exists_hunkHeader (filled : hunk ≠ []) :
    ∃ text, (hunkHeader hunk).toList = '@' :: text := by
  obtain ⟨_, _, header, _⟩ := hunkHeader_eq filled
  exact List.head?_eq_some_iff.1 (by simp [header])

theorem readHunks?_bareLines (filled : ∀ hunk ∈ hs, hunk ≠ []) :
    Patch.readHunks? (hs.flatMap bareLines) = some ([], hs.map asRead) := by
  induction hs with
  | nil => rfl
  | cons hunk hs ih =>
      obtain ⟨some, filled⟩ := List.forall_mem_cons.1 filled
      have read := readHeader?_hunkHeader some
      obtain ⟨text, header⟩ := exists_hunkHeader some
      rw [header] at read
      rw [List.flatMap_cons, bareLines, List.cons_append, Patch.readHunks?, readHunks?_signed,
        ih filled, header]
      simp only [Option.map_some, Option.bind_eq_bind, Option.bind_some, read, List.append_nil,
        List.map_cons]
      rfl

theorem toList_join_hunkText (filled : ∀ hunk ∈ hs, hunk ≠ []) :
    (String.join (hs.map hunkText)).toList = (hs.flatMap bareLines).flatMap written := by
  rw [String.toList_join, List.flatMap_map, List.flatMap_assoc]
  exact List.flatMap_congr fun hunk seen => toList_hunkText (filled hunk seen)

theorem read?_unified (name a b : String) (changed : hunks (between a b) ≠ [])
    (filled : ∀ hunk ∈ hunks (between a b), hunk ≠ [])
    (isLine : ∀ hunk ∈ hunks (between a b), ∀ line ∈ hunk.flatMap Change.marked,
      IsLine (supplied line.2)) :
    Patch.read? name (unified name a b) = some ((hunks (between a b)).map asRead) := by
  have readable : ∀ line ∈ (hunks (between a b)).flatMap bareLines, Readable line := by
    intro line seen
    obtain ⟨hunk, shown, seen⟩ := List.mem_flatMap.1 seen
    rcases List.mem_cons.1 seen with rfl | seen
    · exact (readable_hunkHeader (filled hunk shown)).1
    · obtain ⟨marked, member, rfl⟩ := List.mem_map.1 seen
      exact readable_signed (isLine hunk shown marked member)
  have text_eq : (unified name a b).toList =
      ("--- " ++ name ++ " (original)\n+++ " ++ name ++ " (patched)\n").toList ++
        (String.join ((hunks (between a b)).map hunkText)).toList := by
    rw [unified, ← String.toList_append]
    split
    · next none => exact absurd none changed
    · rfl
  rw [Patch.read?, text_eq, after?_append, toList_join_hunkText filled]
  simp only [Option.bind_eq_bind, Option.bind_some, dropNotes_written readable,
    readHunks?_bareLines filled]

end Emend.Diff
