import Emend.Proofs.TextPieces
import Emend.Regex.Basic

/-! # Searching for a text by its program

The program of a text has one instruction for each character, so there is never more than one way
through it. It matches where the text stands, and the search for its matches cuts a buffer into
the pieces that the search for the text itself finds.
-/

namespace Emend.Regex

open Text

namespace Expr

theorem literalCode_cons_cons (base next : Nat) (c d : Char) (rest : List Char) :
    literalCode base next (c :: d :: rest) =
      .char c (base + 1) :: literalCode (base + 1) next (d :: rest) :=
  rfl

@[simp]
theorem length_literalCode (base next : Nat) (text : List Char) :
    (literalCode base next text).length = text.length := by
  induction text generalizing base with
  | nil => rfl
  | cons c rest ih =>
      cases rest with
      | nil => rfl
      | cons d rest => simp only [literalCode_cons_cons, List.length_cons, ih]

theorem getElem?_literalCode (base i : Nat) (text : List Char) :
    (literalCode base (base + text.length) text)[i]? =
      text[i]?.map fun c => .char c (base + i + 1) := by
  induction text generalizing base i with
  | nil => rfl
  | cons c rest ih =>
      cases rest with
      | nil => cases i <;> simp [literalCode]
      | cons d rest =>
          have behind : base + (c :: d :: rest).length = base + 1 + (d :: rest).length := by
            simp only [List.length_cons]
            omega
          rw [literalCode_cons_cons, behind]
          cases i with
          | zero => simp
          | succ i =>
              have moved : base + 1 + i + 1 = base + (i + 1) + 1 := by omega
              rw [List.getElem?_cons_succ, ih, List.getElem?_cons_succ, moved]

theorem map_bare_literalCode (base next : Nat) (text : List Char) :
    (literalCode base next text).map Inst.bare = literalCode base next text := by
  induction text generalizing base with
  | nil => rfl
  | cons c rest ih =>
      cases rest with
      | nil => rfl
      | cons d rest =>
          rw [literalCode_cons_cons, List.map_cons, ih]
          rfl

end Expr

namespace Program

/-! ## One way through a program -/

section OneWay

variable {p : Program} {inst : Inst} {pc : Nat}

theorem reach_of_waits (here : p[pc]? = some inst)
    (waits : inst = .accept ∨ ∃ c next, inst = .char c next) (point : Point) (pos : Nat)
    (slots : Slots) :
    p.reach point pos [⟨pc, slots⟩] = [⟨pc, slots⟩] := by
  obtain ⟨inside, _⟩ := Array.getElem?_eq_some_iff.1 here
  have unseen : (Array.replicate p.size false).getD pc true = false := by
    simp [Array.getD_eq_getD_getElem?, inside]
  have done (fuel : Nat) (seen : Array Bool) : p.follow point pos fuel [] seen = [] := by
    cases fuel <;> rfl
  rcases waits with rfl | ⟨c, next, rfl⟩ <;>
    simp only [reach, List.length_singleton, follow, unseen, here, done, Bool.false_eq_true,
      if_false]

theorem settle_of_accept (here : p[pc]? = some .accept) (best : Option (Nat × Slots))
    (point : Point) (pos : Nat) (slots : Slots) :
    p.settle best point pos [⟨pc, slots⟩] = ([], some (pos, slots)) := by
  simp only [settle, reach_of_waits here (.inl rfl), cutAtAccept, here]
  rfl

theorem settle_of_char {c : Char} {next : Nat} (here : p[pc]? = some (.char c next))
    (best : Option (Nat × Slots)) (point : Point) (pos : Nat) (slots : Slots) :
    p.settle best point pos [⟨pc, slots⟩] = ([⟨pc, slots⟩], best) := by
  simp only [settle, reach_of_waits here (.inr ⟨c, next, rfl⟩), cutAtAccept, here]
  rfl

end OneWay

/-! ## The program of a text -/

section OfText

variable {target done rest : List Char}

theorem ofExpr_literal (filled : target ≠ []) :
    ofExpr (.literal target) =
      (Expr.literalCode 0 (0 + target.length) target ++ [Inst.accept]).toArray := by
  have positive : 1 ≤ target.length := List.length_pos_iff.2 filled
  have size : Nat.max 1 target.length = 0 + target.length := by
    rw [Nat.zero_add]
    exact Nat.max_eq_right positive
  have shape : target.isEmpty = false := by simpa using filled
  simp only [ofExpr, Expr.code, Expr.size, shape, Bool.false_eq_true, if_false, size]

theorem accept_of_literal (filled : target ≠ []) :
    (ofExpr (.literal target))[target.length]? = some .accept := by
  have ended : target.length = (Expr.literalCode 0 (0 + target.length) target).length := by simp
  rw [ofExpr_literal filled, List.getElem?_toArray]
  simp

theorem char_of_literal {c : Char} (split : target = done ++ c :: rest) :
    (ofExpr (.literal target))[done.length]? = some (.char c (done.length + 1)) := by
  have filled : target ≠ [] := by simp [split]
  have inside : done.length < (Expr.literalCode 0 (0 + target.length) target).length := by
    simp [split]
  have taken : target[done.length]? = some c := by simp [split]
  rw [ofExpr_literal filled, List.getElem?_toArray, List.getElem?_append_left inside,
    Expr.getElem?_literalCode, taken, Option.map_some, Nat.zero_add]

/-- A way that has taken the first characters of the text comes to its end if the rest of the
text follows. -/
theorem run_of_literal (split : target = done ++ rest) (filled : target ≠ [])
    (before : Option Char) (pos : Nat) (slots : Slots) (text : List Char) :
    (ofExpr (.literal target)).run none before pos [⟨done.length, slots⟩] text =
      (after? rest text).map fun _ => (pos + rest.length, slots) := by
  induction rest generalizing done before pos text with
  | nil =>
      have here : (ofExpr (.literal target))[done.length]? = some .accept := by
        rw [← accept_of_literal filled, split, List.append_nil]
      cases text with
      | nil => simp only [run, settle_of_accept here]; rfl
      | cons d text => simp only [run, settle_of_accept here]; rfl
  | cons c rest ih =>
      have here := char_of_literal split
      cases text with
      | nil => simp only [run, settle_of_char here]; rfl
      | cons d text =>
          by_cases same : c = d
          · subst same
            have later : target = (done ++ [c]) ++ rest := by simp [split]
            have next := ih later (some c) (pos + 1) text
            rw [List.length_append, List.length_singleton] at next
            simp only [run, settle_of_char here, advance, here, if_true, next, after?,
              List.length_cons]
            have ended : pos + 1 + rest.length = pos + (rest.length + 1) := by omega
            rw [ended]
          · have other : d ≠ c := fun equal => same equal.symm
            simp only [run, settle_of_char here, advance, here, other, same, if_false, after?]
            rfl

theorem matchAt_of_literal (filled : target ≠ []) (before : Option Char) (text : List Char) :
    (ofExpr (.literal target)).matchAt before text =
      (after? target text).map fun _ => (target.length, []) := by
  have ran := run_of_literal (List.nil_append target).symm filled before 0 [] text
  rwa [Nat.zero_add] at ran

/-! ## The matches of a text -/

/-- A text cut into characters outside of the occurrences of a target, and the occurrences. -/
def segmentsOf (target text : List Char) : List Segment :=
  [Segment.found ⟨target, []⟩].intercalate ((pieces target text).map (·.map Segment.kept))

theorem segmentsOf_cons_of_not_start {c : Char} {text : List Char} (absent : ¬ target <+: c :: text) :
    segmentsOf target (c :: text) = .kept c :: segmentsOf target text := by
  obtain ⟨first, more, here, longer⟩ := pieces_cons_of_not_start absent
  rw [segmentsOf, segmentsOf, here, longer, List.map_cons, List.map_cons]
  cases more with
  | nil => simp
  | cons piece more => simp [List.intercalate_cons_cons]

theorem segmentsOf_append (filled : target ≠ []) (rest : List Char) :
    segmentsOf target (target ++ rest) = .found ⟨target, []⟩ :: segmentsOf target rest := by
  have found := cut?_append_self target rest
  have more : (pieces target rest).map (·.map Segment.kept) ≠ [] := by simp
  rw [segmentsOf, pieces_of_cut?_eq_some filled found, List.map_cons,
    List.intercalate_cons_of_ne_nil more]
  rfl

theorem segments_of_literal (filled : target ≠ []) (before : Option Char) (closed : Bool)
    (skip : Nat) (text : List Char) :
    (ofExpr (.literal target)).segments before closed skip text =
      segmentsOf target (text.drop skip) := by
  induction text generalizing before closed skip with
  | nil =>
      have absent : after? target [] = none := after?_eq_none_iff.2 (by simpa using filled)
      have alone : pieces target [] = [[]] := pieces_of_cut?_eq_none (by simp [cut?, absent])
      simp [segments, matchAt_of_literal filled, absent, segmentsOf, alone]
  | cons c rest ih =>
      cases skip with
      | succ skip => simp only [segments, ih, List.drop_succ_cons]
      | zero =>
          cases started : after? target (c :: rest) with
          | none =>
              have absent := after?_eq_none_iff.1 started
              simp only [segments, matchAt_of_literal filled, started, Option.map_none, ih,
                List.drop_zero, segmentsOf_cons_of_not_start absent]
          | some behind =>
              have whole : c :: rest = target ++ behind := eq_append_of_after? started
              obtain ⟨d, tail, rfl⟩ := List.exists_cons_of_ne_nil filled
              obtain ⟨rfl, same⟩ := List.cons.inj whole
              have split : rest = tail ++ behind := same
              subst split
              simp only [segments, matchAt_of_literal filled, started, Option.map_some, ih,
                List.length_cons, List.take_left, List.drop_left]
              exact (segmentsOf_append filled behind).symm

/-- The program of a text has nothing to record. -/
theorem bare_ofExpr_literal (target : List Char) :
    bare (ofExpr (.literal target)) = ofExpr (.literal target) := by
  have coded (base next : Nat) :
      ((Expr.literal target).code base next).map Inst.bare = (Expr.literal target).code base next := by
    rw [Expr.code]
    split
    · rfl
    · exact Expr.map_bare_literalCode base next target
  simp only [bare, ofExpr, List.map_toArray, List.map_append, coded]
  rfl

end OfText

end Program

/-- The regular expression that is a text, without groups. -/
def ofText (target : List Char) : Regex := ⟨.ofExpr (.literal target), []⟩

section OfText

variable {target : List Char}

theorem split_ofText (filled : target ≠ []) (text : List Char) :
    (ofText target).split text =
      [Segment.found ⟨target, []⟩].intercalate ((pieces target text).map (·.map Segment.kept)) := by
  rw [split, ofText, Program.segments_of_literal filled]
  rfl

theorem count_ofText (filled : target ≠ []) (text : List Char) :
    (ofText target).count text = occurrences target text := by
  have cut : (ofText target).program.bare.segments none false 0 text = (ofText target).split text := by
    rw [ofText, Program.bare_ofExpr_literal]
    rfl
  rw [count, cut, split_ofText filled, occurrences]
  induction pieces target text with
  | nil => rfl
  | cons piece more ih =>
      cases more with
      | nil => simp [Segment.isMatch]
      | cons next more =>
          rw [List.map_cons, List.intercalate_cons_of_ne_nil (by simp), List.countP_append,
            List.countP_append, ih]
          simp [Segment.isMatch, Nat.add_comm]

theorem replaceAll_ofText (filled : target ≠ []) (template : List TemplatePart) (text : List Char) :
    (ofText target).replaceAll template text =
      Text.replaceAll target ((ofText target).expand template ⟨target, []⟩) text := by
  rw [replaceAll, split_ofText filled, Text.replaceAll]
  induction pieces target text with
  | nil => rfl
  | cons piece more ih =>
      cases more with
      | nil => simp [List.flatMap_map]
      | cons next more =>
          rw [List.map_cons, List.intercalate_cons_of_ne_nil (by simp),
            List.intercalate_cons_of_ne_nil (by simp), List.flatMap_append, ih]
          simp [List.flatMap_map]

end OfText

end Emend.Regex
