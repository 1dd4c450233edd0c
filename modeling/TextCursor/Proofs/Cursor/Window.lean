import TextCursor.Cursor.Extraction

/-!
# Windows

A cursor reads its source through windows between two offsets. Sums of offsets stop at the ends of
the range, and places outside the source are clipped. Here the same readers are described with whole
numbers of any size: `Text.segment` has the characters at the places between two numbers, and
`Text.StandsAt` says that a text stands at a place with nothing of it outside the source.

Neither end of the range ever shows. Every window is the exact segment of its places, by
`Cursor.window_eq_segment`, and a window that is as long as what it is compared with lies inside the
source, by `Text.segment_eq_iff_standsAt`.
-/

namespace TextCursor

namespace Text

/-- The characters at the places that a test chooses, in order. -/
def select (text : Text) (chosen : Int → Bool) : Text :=
  (text.zipIdx.filter fun entry => chosen entry.2).map Prod.fst

/-- The characters at the places from `lower` on and before `upper`. -/
def segment (text : Text) (lower upper : Int) : Text :=
  text.select fun place => lower ≤ place ∧ place < upper

/-- Whether a text stands at a place of a source; an empty text stands everywhere. -/
def StandsAt (source target : Text) (place : Int) : Prop :=
  target = [] ∨ 0 ≤ place ∧ place + target.length ≤ source.length ∧
    source.segment place (place + target.length) = target

theorem select_congr {text : Text} {chosen other : Int → Bool}
    (agree : ∀ place : Nat, place < text.length → chosen place = other place) :
    text.select chosen = text.select other := by
  rw [select, select]
  congr 1
  apply List.filter_congr
  intro entry mem
  exact agree entry.2 (List.snd_lt_of_mem_zipIdx mem)

theorem filter_zipIdx_eq_drop_take (text : Text) (first : Nat) (lower upper : Int) :
    ((text.zipIdx first).filter fun entry => decide (lower ≤ entry.2 ∧ entry.2 < upper)).map
        Prod.fst =
      (text.take (upper - first).toNat).drop (lower - first).toNat := by
  induction text generalizing first with
  | nil => simp
  | cons c rest ih =>
      rw [List.zipIdx_cons, List.filter_cons]
      by_cases beyond : upper ≤ first
      · have noneLeft : (upper - (first + 1 : Nat)).toNat = 0 := by omega
        have noneHere : (upper - first).toNat = 0 := by omega
        rw [if_neg (by simp; omega), ih, noneLeft, noneHere]
        simp
      · have more : (upper - first).toNat = (upper - (first + 1 : Nat)).toNat + 1 := by omega
        rw [more, List.take_succ_cons]
        by_cases inside : lower ≤ first
        · have fromHere : (lower - first).toNat = 0 := by omega
          have fromNext : (lower - (first + 1 : Nat)).toNat = 0 := by omega
          rw [if_pos (by simp; omega), List.map_cons, ih, fromHere, fromNext, List.drop_zero,
            List.drop_zero]
        · have later : (lower - first).toNat = (lower - (first + 1 : Nat)).toNat + 1 := by omega
          rw [if_neg (by simp; omega), ih, later, List.drop_succ_cons]

theorem segment_eq_drop_take (text : Text) (lower upper : Int) :
    text.segment lower upper = (text.take upper.toNat).drop lower.toNat := by
  have whole := filter_zipIdx_eq_drop_take text 0 lower upper
  rw [Int.natCast_zero, Int.sub_zero, Int.sub_zero] at whole
  exact whole

theorem length_segment (text : Text) (lower upper : Int) :
    (text.segment lower upper).length = min upper.toNat text.length - lower.toNat := by
  rw [segment_eq_drop_take, List.length_drop, List.length_take]

/-- A segment with as many characters as it has places lies inside the source. -/
theorem segment_eq_iff_standsAt {source target : Text} {place : Int} :
    source.segment place (place + target.length) = target ↔ source.StandsAt target place := by
  constructor
  · intro same
    by_cases empty : target = []
    · exact Or.inl empty
    · have positive := List.length_pos_iff.2 empty
      have size := congrArg List.length same
      rw [length_segment] at size
      exact Or.inr ⟨by omega, by omega, same⟩
  · rintro (rfl | ⟨-, -, same⟩)
    · rw [segment_eq_drop_take]
      simp
    · exact same

/-- Only an empty text stands at a place that is outside the source. -/
theorem not_standsAt_of_outside {source target : Text} {place : Int} (nonempty : target ≠ [])
    (outside : place < 0 ∨ source.length ≤ place) : ¬source.StandsAt target place := by
  have positive := List.length_pos_iff.2 nonempty
  rintro (empty | ⟨atLeast, atMost, -⟩)
  · exact nonempty empty
  · omega

/-- Both ends of the range of offsets are outside the source. -/
theorem standsAt_clamp_iff {source target : Text} (fits : source.length < 9223372036854775808)
    (place : Int) :
    source.StandsAt target (Offset.clamp place).value ↔ source.StandsAt target place := by
  by_cases empty : target = []
  · simp [StandsAt, empty]
  by_cases inRange : -9223372036854775808 ≤ place ∧ place < 9223372036854775808
  · rw [Offset.value_clamp_of_fits inRange.1 inRange.2]
  · have clamped := Offset.value_clamp place
    apply iff_of_false
    · apply not_standsAt_of_outside empty
      omega
    · apply not_standsAt_of_outside empty
      omega

theorem drop_take_clipped (text : Text) (lower upper : Nat) :
    (text.take (min upper text.length)).drop (min lower text.length) =
      (text.take upper).drop lower := by
  rw [← List.take_eq_take_min]
  by_cases inside : lower ≤ text.length
  · rw [Nat.min_eq_left inside]
  · rw [List.drop_of_length_le (by rw [List.length_take]; omega),
      List.drop_of_length_le (by rw [List.length_take]; omega)]

end Text

namespace Offset

/-- Bringing a number into range does not change what it is clipped to. -/
theorem clip_clamp {limit : Nat} (fits : limit < 9223372036854775808) (number : Int) :
    (clamp number).clip limit = min number.toNat limit := by
  rw [clip, value_clamp]
  omega

theorem toNat?_eq_some_iff {offset : Offset} {count : Nat} :
    offset.toNat? = some count ↔ (count : Int) = offset.value := by
  rw [toNat?]
  split
  · simp only [reduceCtorEq, false_iff]
    omega
  · rw [Option.some.injEq]
    omega

end Offset

namespace Cursor

variable (cursor : Cursor)

theorem window_eq_segment (start : Offset) (count : Nat) :
    cursor.window start count = cursor.source.segment start.value (start.value + count) := by
  have stop : (start.forward count).clip cursor.length =
      min (start.value + count).toNat cursor.length :=
    Offset.clip_clamp cursor.source_fits _
  rw [window, between, stop, Text.segment_eq_drop_take]
  exact Text.drop_take_clipped cursor.source _ _

theorem window_eq_iff_standsAt {start : Offset} {target : Text} :
    cursor.window start target.length = target ↔ cursor.source.StandsAt target start.value := by
  rw [window_eq_segment, Text.segment_eq_iff_standsAt]

theorem standsHere_iff {target : Text} :
    cursor.standsHere target = true ↔ cursor.source.StandsAt target cursor.position.value := by
  rw [standsHere, beq_iff_eq, window_eq_iff_standsAt]

theorem standsBefore_iff {target : Text} :
    cursor.standsBefore target = true ↔
      cursor.source.StandsAt target (cursor.position.value - target.length) := by
  rw [standsBefore, beq_iff_eq, window_eq_iff_standsAt, Offset.backward,
    Text.standsAt_clamp_iff cursor.source_fits]

theorem standsAfter_iff {target : Text} :
    cursor.standsAfter target = true ↔
      cursor.source.StandsAt target (cursor.position.value + 1) := by
  rw [standsAfter, beq_iff_eq, window_eq_iff_standsAt, Offset.forward,
    Text.standsAt_clamp_iff cursor.source_fits]
  rfl

theorem charAt?_eq_some_iff {place : Offset} {c : Char} :
    cursor.charAt? place = some c ↔
      ∃ index : Nat, (index : Int) = place.value ∧ cursor.source[index]? = some c := by
  rw [charAt?, Option.bind_eq_some_iff]
  simp only [Offset.toNat?_eq_some_iff]

theorem peek_eq_some_iff {c : Char} :
    cursor.peek = some c ↔
      ∃ index : Nat, (index : Int) = cursor.position.value + 1 ∧
        cursor.source[index]? = some c := by
  rw [peek, charAt?_eq_some_iff]
  apply exists_congr
  intro index
  apply and_congr_left
  intro found
  -- A character that is there is at a place that is an offset, so the sum was in range.
  rcases List.getElem?_eq_some_iff.1 found with ⟨inside, -⟩
  have fits := cursor.source_fits
  have next := cursor.position.value_forward 1
  omega

theorem slice_eq_ok {length : Offset} (forward : 0 ≤ length.value) :
    cursor.slice length =
      .ok (cursor.window cursor.position length.value.toNat, cursor.moveBy length) := by
  have count : length.toNat? = some length.value.toNat := by
    rw [Offset.toNat?_eq_some_iff]
    omega
  rw [slice, count]

/-- What remains is the window of as many places as a count of 64 bits can have. -/
theorem remaining_eq_window :
    cursor.remaining = cursor.window cursor.position 18446744073709551615 := by
  have farthest : cursor.position.forward 18446744073709551615 = .greatest := by
    have least := cursor.position.least_le
    apply Offset.ext
    rw [Offset.value_forward]
    simp only [Offset.greatest]
    omega
  rw [remaining, window, farthest]

theorem remaining_eq_select :
    cursor.remaining = cursor.source.select fun place => cursor.position.value ≤ place := by
  rw [remaining_eq_window, window_eq_segment, Text.segment]
  apply Text.select_congr
  intro place inside
  have fits := cursor.source_fits
  have least := cursor.position.least_le
  simp
  omega

/--
The readers of a cursor find what stands at exact places of the source: a text here, before or after
the cursor, the character after the one under it, the characters of a slice, and those that remain.
-/
theorem readers_exact :
    (∀ target, cursor.standsHere target = true ↔
        cursor.source.StandsAt target cursor.position.value) ∧
      (∀ target, cursor.standsBefore target = true ↔
        cursor.source.StandsAt target (cursor.position.value - target.length)) ∧
      (∀ target, cursor.standsAfter target = true ↔
        cursor.source.StandsAt target (cursor.position.value + 1)) ∧
      (∀ c, cursor.peek = some c ↔
        ∃ index : Nat, (index : Int) = cursor.position.value + 1 ∧
          cursor.source[index]? = some c) ∧
      (∀ length : Offset, 0 ≤ length.value →
        cursor.slice length = .ok (cursor.source.segment cursor.position.value
          (cursor.position.value + length.value), cursor.moveBy length)) ∧
      cursor.remaining =
        cursor.source.select (fun place => cursor.position.value ≤ place) ∧
      cursor.sliceToEnd.1 =
        cursor.source.select (fun place => cursor.position.value ≤ place) := by
  refine ⟨?_, ?_, ?_, ?_, ?_, ?_, ?_⟩
  · intro target
    exact cursor.standsHere_iff
  · intro target
    exact cursor.standsBefore_iff
  · intro target
    exact cursor.standsAfter_iff
  · intro c
    exact cursor.peek_eq_some_iff
  · intro length forward
    rw [cursor.slice_eq_ok forward, window_eq_segment, Int.toNat_of_nonneg forward]
  · exact cursor.remaining_eq_select
  · exact cursor.remaining_eq_select

/-- A slice that begins before the source has only the characters that are there. -/
theorem readers_exact_beforeSource :
    0 ≤ (Offset.clamp 4).value ∧
      Cursor.slice ⟨['a', 'b', 'c'], .clamp (-2), by decide⟩ (.clamp 4) =
        .ok (['a', 'b'], Cursor.moveBy ⟨['a', 'b', 'c'], .clamp (-2), by decide⟩ (.clamp 4)) := by
  have forward : 0 ≤ (Offset.clamp 4).value := by decide
  rcases readers_exact ⟨['a', 'b', 'c'], .clamp (-2), by decide⟩ with ⟨-, -, -, -, slice, -, -⟩
  refine ⟨forward, ?_⟩
  rw [slice (.clamp 4) forward]
  rfl

end Cursor

end TextCursor
