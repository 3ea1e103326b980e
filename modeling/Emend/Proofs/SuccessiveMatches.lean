import Emend.Regex.Basic
import Emend.Proofs.BareSearch

/-! # Successive matches

A search from a place on finds the leftmost match. The next one starts where that match ends, and
an empty match right there is passed over by starting again one character further on. This is said
here of the places of a text, and shown of the segments that a text is cut into in one pass.
-/

namespace Emend.Regex

/-- A match at its place in a text. -/
structure Hit where
  start : Nat
  length : Nat
  slots : Slots
  deriving Repr, DecidableEq

namespace Hit

def stop (hit : Hit) : Nat := hit.start + hit.length

/-- A match of which nothing but the place is known. -/
def bare (hit : Hit) : Hit := { hit with slots := [] }

def toMatch (text : List Char) (hit : Hit) : Match :=
  ⟨(text.drop hit.start).take hit.length, hit.slots⟩

end Hit

/-- The matches among segments, at their places from a given one on. -/
def hitsFrom (place : Nat) : List Segment → List Hit
  | [] => []
  | .kept _ :: rest => hitsFrom (place + 1) rest
  | .found m :: rest =>
      ⟨place, m.text.length, m.slots⟩ :: hitsFrom (place + m.text.length) rest

namespace Program

/-- The match that begins at a place of a text, if one does. -/
def hitAt? (p : Program) (text : List Char) (place : Nat) : Option Hit :=
  (p.matchAt (text.take place).getLast? (text.drop place)).map fun (length, slots) =>
    ⟨place, length, slots⟩

/-- The leftmost match that begins at a place or behind it. -/
structure FirstFrom (p : Program) (text : List Char) (place : Nat) (hit : Hit) : Prop where
  behind : place ≤ hit.start
  inside : hit.start ≤ text.length
  here : p.hitAt? text hit.start = some hit
  leftmost : ∀ other, place ≤ other → other < hit.start → p.hitAt? text other = none

/-- The matches that are found one after the other from a place on, where `last` is the end of the
match found before. -/
inductive Successive (p : Program) (text : List Char) :
    (place : Nat) → (last : Option Nat) → List Hit → Prop
  /-- Nothing is left to be found. -/
  | done {place : Nat} {last : Option Nat}
      (absent : ∀ other, place ≤ other → other ≤ text.length → p.hitAt? text other = none) :
      Successive p text place last []
  /-- An empty match where the last one ended does not count. -/
  | again {place : Nat} {last : Option Nat} {hit : Hit} {more : List Hit}
      (first : p.FirstFrom text place hit) (empty : hit.length = 0) (behind : last = some hit.start)
      (rest : Successive p text (hit.start + 1) last more) : Successive p text place last more
  /-- Any other match does. -/
  | next {place : Nat} {last : Option Nat} {hit : Hit} {more : List Hit}
      (first : p.FirstFrom text place hit) (counts : ¬ (hit.length = 0 ∧ last = some hit.start))
      (rest : Successive p text hit.stop (some hit.stop) more) :
      Successive p text place last (hit :: more)

variable {p : Program} {text done rest : List Char} {place : Nat} {last : Option Nat}
  {hit other : Hit} {hits others : List Hit}

/-! ## Places of matches -/

theorem FirstFrom.not_absent (first : p.FirstFrom text place hit)
    (absent : ∀ other, place ≤ other → other ≤ text.length → p.hitAt? text other = none) :
    False := by
  have none := absent hit.start first.behind first.inside
  rw [first.here] at none
  cases none

theorem FirstFrom.unique (first : p.FirstFrom text place hit)
    (second : p.FirstFrom text place other) : hit = other := by
  rcases Nat.lt_trichotomy hit.start other.start with before | same | behind
  · have none := second.leftmost hit.start first.behind before
    rw [first.here] at none
    cases none
  · have here := first.here
    rw [same, second.here] at here
    exact (Option.some.inj here).symm
  · have none := first.leftmost other.start second.behind behind
    rw [second.here] at none
    cases none

theorem FirstFrom.earlier (absent : p.hitAt? text place = none)
    (first : p.FirstFrom text (place + 1) hit) : p.FirstFrom text place hit where
  behind := Nat.le_of_succ_le first.behind
  inside := first.inside
  here := first.here
  leftmost := by
    intro other low high
    rcases Nat.eq_or_lt_of_le low with rfl | later
    · exact absent
    · exact first.leftmost other later high

theorem firstFrom_of_hitAt? (inside : place ≤ text.length)
    (here : p.hitAt? text place = some hit) : p.FirstFrom text place hit := by
  have start : hit.start = place := by
    obtain ⟨_, _, rfl⟩ := Option.map_eq_some_iff.1 here
    rfl
  subst start
  exact ⟨Nat.le_refl _, inside, here, fun other low high => absurd high (Nat.not_lt.2 low)⟩

theorem Successive.unique (found : p.Successive text place last hits)
    (again : p.Successive text place last others) : hits = others := by
  induction found generalizing others with
  | done absent =>
      cases again with
      | done => rfl
      | again first => exact (first.not_absent absent).elim
      | next first => exact (first.not_absent absent).elim
  | again first empty behind rest ih =>
      cases again with
      | done absent => exact (first.not_absent absent).elim
      | again second _ _ rest' =>
          cases first.unique second
          exact ih rest'
      | next second counts _ =>
          cases first.unique second
          exact (counts ⟨empty, behind⟩).elim
  | next first counts rest ih =>
      cases again with
      | done absent => exact (first.not_absent absent).elim
      | again second empty behind _ =>
          cases first.unique second
          exact (counts ⟨empty, behind⟩).elim
      | next second _ rest' =>
          cases first.unique second
          rw [ih rest']

theorem Successive.earlier (absent : p.hitAt? text place = none)
    (found : p.Successive text (place + 1) last hits) : p.Successive text place last hits := by
  cases found with
  | done none =>
      refine .done fun other low high => ?_
      rcases Nat.eq_or_lt_of_le low with rfl | later
      · exact absent
      · exact none other later high
  | again first empty behind rest => exact .again (first.earlier absent) empty behind rest
  | next first counts rest => exact .next (first.earlier absent) counts rest

theorem hitAt?_bare (p : Program) (text : List Char) (place : Nat) :
    p.bare.hitAt? text place = (p.hitAt? text place).map Hit.bare := by
  simp only [hitAt?, matchAt_bare, unrecorded, Option.map_map]
  rfl

theorem FirstFrom.bare (first : p.FirstFrom text place hit) :
    p.bare.FirstFrom text place hit.bare where
  behind := first.behind
  inside := first.inside
  here := by
    rw [hitAt?_bare]
    exact congrArg (Option.map Hit.bare) first.here
  leftmost := by
    intro other low high
    rw [hitAt?_bare, first.leftmost other low high, Option.map_none]

theorem Successive.bare (found : p.Successive text place last hits) :
    p.bare.Successive text place last (hits.map Hit.bare) := by
  induction found with
  | done absent =>
      refine .done fun other low high => ?_
      rw [hitAt?_bare, absent other low high, Option.map_none]
  | again first empty behind _ ih => exact .again first.bare empty behind ih
  | next first counts _ ih => exact .next first.bare counts ih

/-! ## The length of a match -/

theorem length_of_settle {best : Option (Nat × Slots)} {point : Point} {pos length : Nat}
    {threads : List Thread} {slots : Slots}
    (bound : ∀ length slots, best = some (length, slots) → length ≤ pos)
    (settled : (p.settle best point pos threads).2 = some (length, slots)) : length ≤ pos := by
  simp only [settle] at settled
  cases found : (p.cutAtAccept (p.reach point pos threads)).2 with
  | none =>
      rw [found] at settled
      exact bound length slots settled
  | some recorded =>
      rw [found] at settled
      cases settled
      exact Nat.le_refl pos

theorem length_of_run {best : Option (Nat × Slots)} {before : Option Char} {pos length : Nat}
    {threads : List Thread} {slots : Slots}
    (bound : ∀ length slots, best = some (length, slots) → length ≤ pos)
    (ran : p.run best before pos threads text = some (length, slots)) :
    length ≤ pos + text.length := by
  induction text generalizing best before pos threads with
  | nil => exact length_of_settle bound ran
  | cons c rest ih =>
      simp only [run] at ran
      have kept : ∀ length slots, (p.settle best ⟨before, some c⟩ pos threads).2 =
          some (length, slots) → length ≤ pos := fun _ _ => length_of_settle bound
      rw [List.length_cons]
      cases ahead : p.advance c (p.settle best ⟨before, some c⟩ pos threads).1 with
      | nil =>
          rw [ahead] at ran
          have := kept length slots ran
          omega
      | cons thread more =>
          rw [ahead] at ran
          have later := ih (fun length slots same => Nat.le_succ_of_le (kept length slots same)) ran
          omega

theorem length_of_matchAt {before : Option Char} {length : Nat} {slots : Slots}
    (found : p.matchAt before text = some (length, slots)) : length ≤ text.length := by
  have bound := length_of_run (fun _ _ absent => by cases absent) found
  omega

/-! ## Segments -/

theorem hitAt?_append (p : Program) (done rest : List Char) :
    p.hitAt? (done ++ rest) done.length =
      (p.matchAt done.getLast? rest).map fun (length, slots) => ⟨done.length, length, slots⟩ := by
  simp [hitAt?]

theorem flatMap_text_segments (p : Program) (before : Option Char) (closed : Bool) (skip : Nat)
    (text : List Char) :
    (p.segments before closed skip text).flatMap Segment.text = text.drop skip := by
  induction text generalizing before closed skip with
  | nil =>
      rw [segments, List.drop_nil]
      split
      · split <;> rfl
      · rfl
  | cons c rest ih =>
      cases skip with
      | succ skip => exact ih (some c) closed skip
      | zero =>
          rw [segments, List.drop_zero]
          have step : (.kept c :: p.segments (some c) false 0 rest).flatMap Segment.text =
              c :: rest := by
            rw [List.flatMap_cons, ih, List.drop_zero]
            rfl
          split
          · exact step
          · split
            · exact step
            · rw [List.flatMap_cons, step]
              rfl
          · rw [List.flatMap_cons, ih]
            simp [Segment.text]

theorem successive_beyond (p : Program) (text : List Char) (last : Option Nat) :
    p.Successive text (text.length + 1) last [] := by
  refine .done fun other low high => ?_
  exact absurd (Nat.lt_of_lt_of_le low high) (Nat.lt_irrefl _)

/-- Whether a match that was found before ends at a place, where it ends there or earlier. -/
def EndsAt (closed : Bool) (last : Option Nat) (place : Nat) : Prop :=
  if closed then last = some place else ∀ stop, last = some stop → stop < place

theorem EndsAt.past {closed : Bool} (ends : EndsAt closed last place) :
    EndsAt false last (place + 1) := by
  intro stop same
  cases closed with
  | true =>
      cases Eq.trans (Eq.symm ends) same
      exact Nat.lt_succ_self _
  | false => exact Nat.lt_succ_of_lt (ends stop same)

theorem EndsAt.fresh (ends : EndsAt false last place) : last ≠ some place := by
  intro same
  exact absurd (ends place same) (Nat.lt_irrefl _)

theorem endsAt_succ (place : Nat) : EndsAt false (some place) (place + 1) := by
  intro stop same
  cases same
  exact Nat.lt_succ_self _

/-- An empty match counts unless a match ends there, and the search goes on behind it. -/
theorem Successive.of_empty {closed : Bool} (inside : place ≤ text.length) (slots : Slots)
    (here : p.hitAt? text place = some ⟨place, 0, slots⟩) (ends : EndsAt closed last place)
    (rest : p.Successive text (place + 1) (some place) hits) :
    p.Successive text place last (if closed then hits else ⟨place, 0, slots⟩ :: hits) := by
  have first := firstFrom_of_hitAt? inside here
  cases closed with
  | true =>
      cases ends
      exact .again first rfl rfl rest
  | false =>
      -- The search starts at the same place once more, where the match is now the last one.
      exact .next first (fun same => ends.fresh same.2) (.again first rfl rfl rest)

theorem successive_segments_nil {closed : Bool} (ends : EndsAt closed last text.length) :
    p.Successive text text.length last
      (hitsFrom text.length (p.segments text.getLast? closed 0 [])) := by
  have here := p.hitAt?_append text []
  rw [List.append_nil] at here
  rw [segments]
  cases found : p.matchAt text.getLast? [] with
  | none =>
      rw [found] at here
      exact .earlier here (successive_beyond p text last)
  | some parts =>
      obtain ⟨length, slots⟩ := parts
      obtain rfl : length = 0 := Nat.le_zero.1 (length_of_matchAt found)
      rw [found] at here
      have counted := Successive.of_empty (Nat.le_refl _) slots here ends (successive_beyond p text _)
      cases closed <;> exact counted

theorem successive_segments_cons {c : Char} (split : text = done ++ c :: rest) {closed : Bool}
    (ends : EndsAt closed last done.length)
    (later : ∀ {skip : Nat} {closed : Bool} {last : Option Nat}, skip ≤ rest.length →
      EndsAt closed last (done.length + 1 + skip) →
      p.Successive text (done.length + 1 + skip) last
        (hitsFrom (done.length + 1 + skip) (p.segments (some c) closed skip rest))) :
    p.Successive text done.length last
      (hitsFrom done.length (p.segments done.getLast? closed 0 (c :: rest))) := by
  have inside : done.length ≤ text.length := by simp [split]
  have here : p.hitAt? text done.length = _ := split ▸ p.hitAt?_append done (c :: rest)
  rw [segments]
  cases found : p.matchAt done.getLast? (c :: rest) with
  | none =>
      rw [found] at here
      exact .earlier here (later (Nat.zero_le _) ends.past)
  | some parts =>
      obtain ⟨length, slots⟩ := parts
      rw [found] at here
      cases length with
      | zero =>
          have counted := Successive.of_empty inside slots here ends
            (later (Nat.zero_le _) (endsAt_succ done.length))
          cases closed <;> exact counted
      | succ n =>
          have bound : n ≤ rest.length := Nat.le_of_succ_le_succ (length_of_matchAt found)
          have taken : (c :: rest.take n).length = n + 1 := by simp [bound]
          have whole : done.length + (n + 1) = done.length + 1 + n := by omega
          have meets : EndsAt true (some (done.length + 1 + n)) (done.length + 1 + n) := rfl
          have counts : ¬ (n + 1 = 0 ∧ last = some done.length) :=
            fun same => Nat.succ_ne_zero n same.1
          simp only [hitsFrom, taken]
          refine .next (firstFrom_of_hitAt? inside here) counts ?_
          simp only [Hit.stop, whole]
          exact later bound meets

/-- Cutting a text in one pass finds its successive matches. `closed` stands for a match that ends
right where the search goes on, which is `skip` characters ahead. -/
theorem successive_segments (split : text = done ++ rest) {skip : Nat} (ahead : skip ≤ rest.length)
    {closed : Bool} (ends : EndsAt closed last (done.length + skip)) :
    p.Successive text (done.length + skip) last
      (hitsFrom (done.length + skip) (p.segments done.getLast? closed skip rest)) := by
  induction rest generalizing done skip closed last with
  | nil =>
      obtain rfl : skip = 0 := Nat.le_zero.1 ahead
      rw [List.append_nil] at split
      subst split
      exact successive_segments_nil ends
  | cons c rest ih =>
      have longer : text = (done ++ [c]) ++ rest := by simp [split]
      have later {skip : Nat} {closed : Bool} {last : Option Nat} (ahead : skip ≤ rest.length)
          (ends : EndsAt closed last (done.length + 1 + skip)) :
          p.Successive text (done.length + 1 + skip) last
            (hitsFrom (done.length + 1 + skip) (p.segments (some c) closed skip rest)) := by
        have size : done.length + 1 = (done ++ [c]).length := by simp
        have tail : (done ++ [c]).getLast? = some c := by simp
        rw [size] at ends ⊢
        rw [← tail]
        exact ih longer ahead ends
      cases skip with
      | zero => exact successive_segments_cons split ends later
      | succ skip =>
          have moved : done.length + (skip + 1) = done.length + 1 + skip := by omega
          rw [moved] at ends ⊢
          exact later (Nat.le_of_succ_le_succ ahead) ends

end Program

end Emend.Regex
