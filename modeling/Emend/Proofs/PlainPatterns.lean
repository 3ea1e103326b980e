import Emend.Regex.Basic
import Mathlib.Data.List.Forall2

/-! # Patterns that mean a text

Behind a backslash every character with a meaning of its own stands for itself. A text that is
written so is read as its characters one after the other, whatever they are, and is compiled to
the expression that is this text. All that can go wrong is that it is too long.
-/

namespace Emend.Regex

def plainPattern (text : List Char) : List Char :=
  text.flatMap fun c => if isMeta c then ['\\', c] else [c]

/-! ## Reading -/

/-- An expression is a character that stands for itself. -/
def Ast.Spells (ast : Ast) (c : Char) : Prop := ∃ span, ast = .literal ⟨span, c, false⟩

/-- A plain pattern is being read: the characters `done` have been, and `rest` is to come. -/
structure ParserState.Reading (st : ParserState) (done rest : List Char) : Prop where
  ahead : st.cur.rest = plainPattern rest
  exact : st.cur.verbose = false
  outermost : st.stack = []
  spells : List.Forall₂ Ast.Spells st.seq.parts.reverse done

namespace ParserState

variable {st : ParserState} {c : Char} {done rest : List Char}

theorem step_of_not_isMeta (plain : isMeta c = false) :
    st.step c = .ok (st.pushAst (.literal ⟨st.cur.spanChar, c, false⟩, st.cur.bump)) := by
  unfold step
  split
  all_goals first
    | rfl
    | exact absurd plain (by decide)

theorem step_backslash (special : isMeta c = true) (here : st.cur.rest = '\\' :: c :: rest) :
    ∃ span pos, st.step '\\' =
      .ok (st.pushAst (.literal ⟨span, c, false⟩, ⟨rest, pos, st.cur.verbose⟩)) := by
  refine ⟨⟨st.cur.pos, (st.cur.pos.advance '\\').advance c⟩,
    (st.cur.pos.advance '\\').advance c, ?_⟩
  simp [step, Cursor.escape, Cursor.bump, Cursor.char?, here, special, Except.map]

theorem run_of_char (here : st.cur.char? = some c) (exact : st.cur.verbose = false) (fuel : Nat) :
    run (fuel + 1) st = (st.step c).bind (run fuel) := by
  simp [run, Cursor.skipSpace, exact, here]

theorem run_of_end (ended : st.cur.rest = []) (exact : st.cur.verbose = false) (fuel : Nat) :
    run fuel st = st.finish := by
  cases fuel with
  | zero => rfl
  | succ fuel => simp [run, Cursor.skipSpace, exact, Cursor.char?, ended]

namespace Reading

theorem pushed (reading : st.Reading done (c :: rest)) (span : Span) (pos : Position) :
    (st.pushAst (.literal ⟨span, c, false⟩, ⟨plainPattern rest, pos, st.cur.verbose⟩)).Reading
      (done ++ [c]) rest where
  ahead := rfl
  exact := reading.exact
  outermost := reading.outermost
  spells := by
    simp only [pushAst, Sequence.push, List.reverse_cons]
    exact List.rel_append reading.spells (.cons ⟨span, rfl⟩ .nil)

theorem step (reading : st.Reading done (c :: rest)) :
    ∃ d next, st.cur.char? = some d ∧ st.step d = .ok next ∧ next.Reading (done ++ [c]) rest := by
  have ahead := reading.ahead
  cases special : isMeta c with
  | true =>
      have here : st.cur.rest = '\\' :: c :: plainPattern rest := by
        simpa [plainPattern, special] using ahead
      obtain ⟨span, pos, stepped⟩ := step_backslash special here
      exact ⟨'\\', _, by simp [Cursor.char?, here], stepped, reading.pushed span pos⟩
  | false =>
      have here : st.cur.rest = c :: plainPattern rest := by
        simpa [plainPattern, special] using ahead
      have bumped : st.cur.bump = ⟨plainPattern rest, st.cur.pos.advance c, st.cur.verbose⟩ := by
        simp [Cursor.bump, here]
      have stepped : st.step c = _ := step_of_not_isMeta special
      rw [bumped] at stepped
      exact ⟨c, _, by simp [Cursor.char?, here], stepped, reading.pushed _ _⟩

theorem run (reading : st.Reading done rest) {fuel : Nat} (room : rest.length ≤ fuel) :
    ∃ seq stop, st.run fuel = .ok (Sequence.toAst seq stop) ∧
      List.Forall₂ Ast.Spells seq.parts.reverse (done ++ rest) := by
  induction rest generalizing st done fuel with
  | nil =>
      refine ⟨st.seq, st.cur.pos, ?_, by simpa using reading.spells⟩
      rw [run_of_end reading.ahead reading.exact]
      simp [finish, joinBranches, reading.outermost]
  | cons c rest ih =>
      obtain ⟨fuel, rfl⟩ := Nat.exists_eq_add_of_le' (Nat.lt_of_lt_of_le (Nat.succ_pos _) room)
      obtain ⟨d, next, here, stepped, later⟩ := reading.step
      obtain ⟨seq, stop, ran, spells⟩ := ih later (Nat.le_of_succ_le_succ room)
      refine ⟨seq, stop, ?_, by simpa using spells⟩
      rw [run_of_char here reading.exact, stepped]
      exact ran

end Reading

end ParserState

/-! ## What has been read -/

namespace Ast.Spells

variable {ast : Ast} {c : Char} (spelled : ast.Spells c)
include spelled

theorem tooDeep?_eq (limit depth : Nat) : ast.tooDeep? limit depth = none := by
  obtain ⟨span, rfl⟩ := spelled
  simp [tooDeep?]

theorem groupNames_eq : ast.groupNames = [] := by
  obtain ⟨span, rfl⟩ := spelled
  simp [groupNames]

theorem meaning_eq :
    ast.meaning Flags.none.settings = .ok (.literal [c], Flags.none.settings) := by
  obtain ⟨span, rfl⟩ := spelled
  simp [meaning, Settings.literal, Flags.settings, Flags.none, bind, Except.bind, pure, Except.pure]

end Ast.Spells

section Spelled

variable {asts : List Ast} {text : List Char} (spells : List.Forall₂ Ast.Spells asts text)
include spells

theorem anyTooDeep?_of_spells (limit depth : Nat) : Ast.anyTooDeep? limit depth asts = none := by
  induction spells with
  | nil => rfl
  | cons spelled _ ih => rw [Ast.anyTooDeep?, spelled.tooDeep?_eq, ih, Option.or_none]

theorem allGroupNames_of_spells : Ast.allGroupNames asts = [] := by
  induction spells with
  | nil => rfl
  | cons spelled _ ih => rw [Ast.allGroupNames, spelled.groupNames_eq, ih, List.append_nil]

theorem meanings_of_spells :
    Ast.meanings Flags.none.settings asts =
      .ok (text.map fun c => .literal [c], Flags.none.settings) := by
  induction spells with
  | nil => rfl
  | cons spelled _ ih =>
      simp only [Ast.meanings, spelled.meaning_eq, bind, Except.bind, ih]
      rfl

end Spelled

theorem joinLiterals_of_chars {text : List Char} (filled : text ≠ []) :
    Expr.joinLiterals (text.map fun c => .literal [c]) = [.literal text] := by
  induction text with
  | nil => exact absurd rfl filled
  | cons c rest ih =>
      cases rest with
      | nil => rfl
      | cons d rest =>
          rw [List.map_cons, Expr.joinLiterals, ih (List.cons_ne_nil d rest)]
          rfl

theorem sequence_of_chars {text : List Char} (filled : text ≠ []) :
    Expr.sequence (text.map fun c => .literal [c]) = .literal text := by
  have parts : (text.map fun c => Expr.literal [c]).flatMap Expr.sequenceParts =
      text.map fun c => .literal [c] := by
    rw [List.flatMap_map, List.map_eq_flatMap]
    rfl
  rw [Expr.sequence, parts, joinLiterals_of_chars filled]

namespace Sequence

variable {seq : Sequence} {text : List Char}
  (spells : List.Forall₂ Ast.Spells seq.parts.reverse text) (filled : text ≠ []) (stop : Position)
include spells filled

theorem toAst_cases :
    (∃ c, (seq.toAst stop).Spells c ∧ text = [c]) ∨
      seq.toAst stop = .concat ⟨seq.start, stop⟩ seq.parts.reverse := by
  cases shape : seq.parts with
  | nil =>
      rw [shape] at spells
      cases spells
      exact absurd rfl filled
  | cons ast more =>
      cases more with
      | nil =>
          rw [shape] at spells
          obtain _ | ⟨spelled, rest⟩ := spells
          cases rest
          exact .inl ⟨_, by simpa [toAst, shape] using spelled, rfl⟩
      | cons other more => exact .inr (by simp [toAst, shape])

theorem tooDeep?_toAst : (seq.toAst stop).tooDeep? nestLimit 0 = none := by
  rcases toAst_cases spells filled stop with ⟨c, spelled, _⟩ | same
  · exact spelled.tooDeep?_eq nestLimit 0
  · rw [same, Ast.tooDeep?, anyTooDeep?_of_spells spells]
    rfl

theorem groupNames_toAst : (seq.toAst stop).groupNames = [] := by
  rcases toAst_cases spells filled stop with ⟨c, spelled, _⟩ | same
  · exact spelled.groupNames_eq
  · rw [same, Ast.groupNames, allGroupNames_of_spells spells]

theorem meaning_toAst :
    (seq.toAst stop).meaning Flags.none.settings = .ok (.literal text, Flags.none.settings) := by
  rcases toAst_cases spells filled stop with ⟨c, spelled, rfl⟩ | same
  · exact spelled.meaning_eq
  · rw [same, Ast.meaning, meanings_of_spells spells]
    simp [bind, Except.bind, pure, Except.pure, sequence_of_chars filled]

end Sequence

/-! ## Compiling -/

theorem length_le_plainPattern (text : List Char) : text.length ≤ (plainPattern text).length := by
  induction text with
  | nil => exact Nat.zero_le _
  | cons c rest ih =>
      have one : 1 ≤ (if isMeta c then ['\\', c] else [c]).length := by split <;> simp
      have split : plainPattern (c :: rest) =
          (if isMeta c then ['\\', c] else [c]) ++ plainPattern rest := rfl
      rw [split, List.length_append, List.length_cons]
      omega

theorem exists_parse_plainPattern {text : List Char} (filled : text ≠ []) :
    ∃ ast, Ast.parse (plainPattern text) = .ok ast ∧ ast.groupNames = [] ∧
      ast.meaning Flags.none.settings = .ok (.literal text, Flags.none.settings) := by
  have reading : ParserState.Reading ⟨.start (plainPattern text) false, [], ⟨.first, []⟩, 0, []⟩
      [] text := ⟨rfl, rfl, rfl, .nil⟩
  have room : text.length ≤ (plainPattern text).length + 1 :=
    Nat.le_succ_of_le (length_le_plainPattern text)
  obtain ⟨seq, stop, ran, spells⟩ := reading.run room
  rw [List.nil_append] at spells
  refine ⟨seq.toAst stop, ?_, seq.groupNames_toAst spells filled stop,
    seq.meaning_toAst spells filled stop⟩
  simp [Ast.parse, ran, bind, Except.bind, seq.tooDeep?_toAst spells filled stop]

/-- A plain pattern is the text, unless the text is too long. -/
theorem compile_plainPattern {text : List Char} (filled : text ≠ []) :
    compile (String.ofList (plainPattern text)) .none =
      if (Expr.literal text).fits sizeLimit then .ok ⟨.ofExpr (.literal text), []⟩
      else .error (.tooLarge sizeLimit) := by
  obtain ⟨ast, parsed, names, meaning⟩ := exists_parse_plainPattern filled
  simp [compile, parsed, names, meaning, Except.mapError, bind, Except.bind, pure, Except.pure]

theorem length_word (d : Direction) (text : List Char) :
    (Expr.word d text).length = (Expr.word .forward text).length := by
  cases d <;> simp [Expr.word]

theorem footprint_literal {text : List Char} (filled : text ≠ []) (limit : Nat) :
    (Expr.literal text).footprint limit .forward = ⟨(Expr.word .forward text).length + 6, 16⟩ ∧
      (Expr.literal text).footprint limit .backward =
        ⟨(Expr.word .forward text).length + 4, 16⟩ := by
  have positive : 1 ≤ (Expr.word .forward text).length := by
    obtain ⟨c, rest, rfl⟩ := List.exists_cons_of_ne_nil filled
    have one := c.utf8Size_pos
    simp only [Expr.word, if_true, List.flatMap_cons, List.length_append,
      String.length_utf8EncodeChar]
    omega
  have bytes (d : Direction) :
      Nat.max 1 (Expr.word d text).length = (Expr.word .forward text).length := by
    rw [length_word]
    exact Nat.max_eq_right positive
  constructor <;>
    simp [Expr.footprint, Expr.isAnchored, Expr.joint, Expr.endsInChoice, Expr.grow, bytes,
      Footprint.add, Footprint.rangeSize, Footprint.linkSize] <;>
    omega

theorem fits_literal_iff {text : List Char} (filled : text ≠ []) (limit : Nat) :
    (Expr.literal text).fits limit = true ↔
      32 * (Expr.word .forward text).length + 208 ≤ limit := by
  obtain ⟨forward, backward⟩ := footprint_literal filled limit
  simp only [Expr.fits, forward, backward, Footprint.bytes, Footprint.stateSize, Bool.and_eq_true,
    decide_eq_true_eq]
  omega

end Emend.Regex
