import TextCursor.Proofs.Cursor.Searching

/-!
# Lookbehind

What is read at a cursor ends where the cursor comes to, so looking back from there finds it, even
if the reading began before the source and has fewer characters than the cursor has passed. From a
place that was not before the source, the way back over what was read leads to where the reading
began. Reading to the end from a place after the end is the one reading that moves backwards.
-/

namespace TextCursor

namespace Cursor

variable {cursor moved : Cursor} {content : Text}

theorem Reads.length_eq (reads : cursor.Reads content moved) : moved.length = cursor.length := by
  simp only [length, reads.source_eq]

theorem Reads.length_content (reads : cursor.Reads content moved) :
    content.length =
      moved.position.clip cursor.length - cursor.position.clip cursor.length := by
  have atMost : moved.position.clip cursor.length ≤ cursor.source.length :=
    moved.position.clip_le cursor.length
  simp only [reads.content_eq, between, List.length_drop, List.length_take]
  omega

/-- What is read stands right before the place where the reading ends, inside the source. -/
theorem Reads.standsAt (reads : cursor.Reads content moved)
    (inside : moved.position.value ≤ moved.length) :
    cursor.source.StandsAt content (moved.position.value - content.length) := by
  by_cases empty : content = []
  · exact Or.inl empty
  · have positive := List.length_pos_iff.2 empty
    have size := reads.length_content
    have atMost : (cursor.length : Int) ≤ cursor.source.length := Int.le_refl _
    rw [reads.length_eq] at inside
    simp only [Offset.clip] at size
    -- Something was read, so the reading has begun before the end, at the first place read.
    have first : (moved.position.value - content.length).toNat = cursor.position.value.toNat := by
      omega
    refine Or.inr ⟨by omega, by omega, ?_⟩
    have content_eq := reads.content_eq
    simp only [between_eq_segment, Text.segment_eq_drop_take] at content_eq
    simp only [Text.segment_eq_drop_take, Int.sub_add_cancel, first]
    exact content_eq.symm

theorem Reads.standsBefore (reads : cursor.Reads content moved)
    (inside : moved.position.value ≤ moved.length) : moved.standsBefore content = true := by
  simp only [standsBefore_iff, reads.source_eq]
  exact reads.standsAt inside

/-- Inside the source, a reading has passed as many characters as it has read. -/
theorem Reads.position_eq (reads : cursor.Reads content moved)
    (inside : moved.position.value ≤ moved.length) (notNegative : 0 ≤ cursor.position.value)
    (forward : cursor.position.value ≤ moved.position.value) :
    moved.position.value - content.length = cursor.position.value := by
  have size := reads.length_content
  simp only [reads.length_eq] at inside
  simp only [Offset.clip] at size
  omega

/-- There is an offset for the way back over what was read. -/
theorem Reads.value_back (reads : cursor.Reads content moved) :
    (Offset.clamp (-content.length)).value = -content.length := by
  have size := reads.length_content
  have atMost := moved.position.clip_le cursor.length
  have fits := cursor.length_lt
  apply Offset.value_clamp_of_fits
  · omega
  · omega

/-- Going back over what was read leads to where the reading has begun. -/
theorem Reads.moveBy_back (reads : cursor.Reads content moved)
    (back : moved.position.value - content.length = cursor.position.value) :
    moved.moveBy (.clamp (-content.length)) = cursor := by
  apply Cursor.ext
  · exact reads.source_eq
  · apply Offset.ext
    have least := cursor.position.least_le
    have below := cursor.position.value_lt
    simp only [moveBy, position_moveTo, Offset.value_add, reads.value_back]
    omega

end Cursor

namespace Extraction

variable {extraction : Extraction} {cursor moved : Cursor} {content : Text}

/-- Whether an extraction takes a cursor back to the end of its source. -/
def ReturnsToEnd (extraction : Extraction) (cursor : Cursor) : Prop :=
  extraction = .sliceToEnd ∧ cursor.length < cursor.position.value

/-- No other extraction moves backwards. -/
theorem position_le_of_run (ran : extraction.run cursor = .ok (content, moved))
    (forward : ¬extraction.ReturnsToEnd cursor) :
    cursor.position.value ≤ moved.position.value := by
  have below := cursor.position.value_lt
  cases extraction with
  | slice length notNegative =>
      have least := cursor.position.least_le
      simp only [run, Cursor.slice_eq_ok cursor notNegative, Except.ok.injEq, Prod.mk.injEq] at ran
      rcases ran with ⟨-, rfl⟩
      simp only [Cursor.moveBy, Cursor.position_moveTo, Offset.value_add]
      omega
  | sliceToEnd =>
      simp only [run, Cursor.sliceToEnd, Except.ok.injEq, Prod.mk.injEq] at ran
      rcases ran with ⟨-, rfl⟩
      simp only [ReturnsToEnd, true_and, Int.not_lt] at forward
      exact forward
  | getUntil target =>
      simp only [run, Except.ok.injEq, Prod.mk.injEq] at ran
      rcases ran with ⟨-, rfl⟩
      exact cursor.position_le_getUntil target
  | consume targets =>
      simp only [run, Except.ok.injEq, Cursor.consume, Cursor.skip, Prod.mk.injEq] at ran
      rcases ran with ⟨-, rfl⟩
      simp only [Cursor.position_moveTo, Offset.value_forward]
      omega
  | consumeWhile accept state =>
      simp only [run, Except.ok.injEq, Cursor.consumeWhile, Cursor.skip, Prod.mk.injEq] at ran
      rcases ran with ⟨-, rfl⟩
      simp only [Cursor.position_moveTo, Offset.value_forward]
      omega

/--
If an extraction leaves the cursor at a place that is not after the end, then the text that it
returns stands right before that place. If the cursor was not before the source and did not return
to the end, moving it back by the number of characters of the text restores it, and the text stands
there.
-/
theorem run_lookbehind (extraction : Extraction) (cursor : Cursor) :
    ∃ content moved, extraction.run cursor = .ok (content, moved) ∧
      (moved.position.value ≤ moved.length →
        moved.standsBefore content = true ∧
          (0 ≤ cursor.position.value → ¬extraction.ReturnsToEnd cursor →
            ∃ back : Offset, back.value = -content.length ∧ moved.moveBy back = cursor ∧
              (moved.moveBy back).standsHere content = true)) := by
  rcases extraction.exists_reads cursor with ⟨content, moved, ran, reads⟩
  refine ⟨content, moved, ran, ?_⟩
  intro inside
  refine ⟨reads.standsBefore inside, ?_⟩
  intro notNegative forward
  have back := reads.position_eq inside notNegative (position_le_of_run ran forward)
  have returned := reads.moveBy_back back
  refine ⟨.clamp (-content.length), reads.value_back, returned, ?_⟩
  have stands := reads.standsAt inside
  rw [back] at stands
  simp only [returned, Cursor.standsHere_iff]
  exact stands

/-- A slice that ends before the end of the source is found on both sides of the way back. -/
theorem run_lookbehind_inside :
    let cursor : Cursor := ⟨"lorem".toList, .clamp 1, by decide⟩
    let moved : Cursor := ⟨"lorem".toList, .clamp 4, by decide⟩
    let extraction : Extraction := .slice (.clamp 3) (by decide)
    extraction.run cursor = .ok ("ore".toList, moved) ∧
      moved.position.value ≤ moved.length ∧ 0 ≤ cursor.position.value ∧
      ¬extraction.ReturnsToEnd cursor ∧ moved.standsBefore "ore".toList = true ∧
      ∃ back : Offset, back.value = -3 ∧ moved.moveBy back = cursor ∧
        (moved.moveBy back).standsHere "ore".toList = true := by
  intro cursor moved extraction
  have ran : extraction.run cursor = .ok ("ore".toList, moved) := rfl
  have inside : moved.position.value ≤ moved.length := by decide
  have notNegative : 0 ≤ cursor.position.value := by decide
  have forward : ¬extraction.ReturnsToEnd cursor := fun returns => nomatch returns.1
  rcases run_lookbehind extraction cursor with ⟨content, reached, same, looksBack⟩
  rw [ran] at same
  cases same
  rcases looksBack inside with ⟨stands, comesBack⟩
  exact ⟨ran, inside, notNegative, forward, stands, comesBack notNegative forward⟩

end Extraction

end TextCursor
