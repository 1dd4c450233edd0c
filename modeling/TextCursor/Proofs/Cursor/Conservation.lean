import TextCursor.Proofs.Cursor.Window

/-!
# Conservation of text

Five operations read a text at the cursor and move past it. `Cursor.Reads` is what they have in
common: the text is what lies between the old place and the new one, and the new one is not before
the old one, both being clipped to the source. So a text and what remains after it are what remained
before, and by induction nothing is lost or read twice by any number of extractions.
-/

namespace TextCursor

namespace Text

theorem takeWhileFrom_prefix {State : Type} (accept : State → Char → Bool × State) (state : State)
    (text : Text) : (takeWhileFrom accept state text).1 <+: text := by
  induction text generalizing state with
  | nil => exact List.prefix_refl []
  | cons c rest ih =>
      rw [takeWhileFrom]
      split
      · next next _ => exact (List.prefix_cons_inj c).2 (ih next)
      · exact List.nil_prefix

theorem repeats_prefix (targets : List Text) (text : Text) : repeats targets text <+: text := by
  fun_induction repeats targets text with
  | case1 text none => exact List.nil_prefix
  | case2 text target found shorter ih =>
      rcases (leads_of_leading? found).2 with ⟨rest, rfl⟩
      rw [List.drop_left] at ih ⊢
      exact (List.prefix_append_right_inj target).2 ih

theorem indexOf?_le {target text : Text} {index : Nat} (found : indexOf? target text = some index) :
    index ≤ text.length := by
  induction text generalizing index with
  | nil =>
      rw [indexOf?] at found
      split at found <;> cases found
      exact Nat.le_refl 0
  | cons c rest ih =>
      rw [indexOf?] at found
      split at found
      · cases found
        exact Nat.zero_le _
      · rcases Option.map_eq_some_iff.1 found with ⟨inner, innerFound, rfl⟩
        exact Nat.succ_le_succ (ih innerFound)

theorem drop_take_append_drop (text : Text) {first last : Nat} (ordered : first ≤ last) :
    (text.take last).drop first ++ text.drop last = text.drop first := by
  have rest : text.drop last = (text.drop first).drop (last - first) := by
    rw [List.drop_drop, Nat.add_sub_cancel' ordered]
  rw [List.drop_take, rest, List.take_append_drop]

end Text

namespace Offset

theorem clip_max (left right : Offset) (limit : Nat) :
    (max left right).clip limit = max (left.clip limit) (right.clip limit) := by
  rw [clip, value_max, clip, clip]
  omega

end Offset

namespace Cursor

/-- Whether a text is read between the places of a cursor before and after, with none in reverse. -/
structure Reads (cursor : Cursor) (content : Text) (moved : Cursor) : Prop where
  source_eq : moved.source = cursor.source
  ordered : cursor.position.clip cursor.length ≤ moved.position.clip cursor.length
  content_eq : content = cursor.between cursor.position moved.position

variable {cursor moved : Cursor} {content : Text}

theorem length_lt (cursor : Cursor) : cursor.length < 9223372036854775808 := cursor.source_fits

theorem remaining_eq_drop (cursor : Cursor) :
    cursor.remaining = cursor.source.drop (cursor.position.clip cursor.length) := by
  have fits := cursor.source_fits
  have whole : Offset.greatest.clip cursor.length = cursor.source.length := by
    simp only [Offset.clip, Offset.greatest, length]
    omega
  rw [remaining, between, whole, List.take_length]

theorem clip_stop (cursor : Cursor) : cursor.stop.clip cursor.length = cursor.length := by
  simp [Offset.clip, stop]

/-- What is read and what remains after it are what remained before. -/
theorem Reads.append_remaining (reads : cursor.Reads content moved) :
    content ++ moved.remaining = cursor.remaining := by
  have sameLength : moved.length = cursor.length := by rw [length, length, reads.source_eq]
  rw [remaining_eq_drop, remaining_eq_drop, reads.content_eq, between, sameLength, reads.source_eq]
  exact Text.drop_take_append_drop cursor.source reads.ordered

theorem reads_nothing (cursor : Cursor) : cursor.Reads [] cursor where
  source_eq := rfl
  ordered := Nat.le_refl _
  content_eq := by
    rw [between, List.drop_of_length_le]
    rw [List.length_take]
    omega

/-- A text that leads what is ahead of a cursor, and is not empty, is inside the source. -/
theorem exists_index_of_leads {text : Text} (nonempty : text ≠ [])
    (leads : text <+: cursor.ahead) :
    ∃ index : Nat, (index : Int) = cursor.position.value ∧
      index + text.length ≤ cursor.length ∧ text <+: cursor.source.drop index := by
  rw [ahead] at leads
  cases counted : cursor.position.toNat? with
  | none =>
      rw [counted] at leads
      exact absurd (List.prefix_nil.1 leads) nonempty
  | some index =>
      rw [counted] at leads
      have positive := List.length_pos_iff.2 nonempty
      have inside := leads.length_le
      rw [List.length_drop] at inside
      refine ⟨index, Offset.toNat?_eq_some_iff.1 counted, ?_, leads⟩
      rw [length]
      omega

theorem skip_nil (cursor : Cursor) : cursor.skip [] = ([], cursor) := by
  have still : cursor.position.forward 0 = cursor.position := by simp [Offset.forward]
  rw [skip, List.length_nil, still]
  rfl

/-- Skipping a text that leads what is ahead of the cursor reads it. -/
theorem reads_skip {text : Text} (leads : text <+: cursor.ahead) :
    cursor.Reads (cursor.skip text).1 (cursor.skip text).2 := by
  by_cases empty : text = []
  · rw [empty, skip_nil]
    exact cursor.reads_nothing
  · rcases exists_index_of_leads empty leads with ⟨index, place, inside, leadsThere⟩
    have first : cursor.position.clip cursor.length = index := by
      rw [Offset.clip]
      omega
    have last : (cursor.position.forward text.length).clip cursor.length =
        index + text.length := by
      rw [Offset.forward, Offset.clip_clamp cursor.length_lt]
      omega
    refine ⟨rfl, ?_, ?_⟩
    · rw [skip, position_moveTo, first, last]
      omega
    · rw [skip, position_moveTo, between, first, last, List.drop_take, Nat.add_sub_cancel_left]
      exact List.prefix_iff_eq_take.1 leadsThere

theorem reads_consume (cursor : Cursor) (targets : List Text) :
    cursor.Reads (cursor.consume targets).1 (cursor.consume targets).2 :=
  reads_skip (Text.repeats_prefix targets cursor.ahead)

theorem reads_consumeWhile {State : Type} (cursor : Cursor)
    (accept : State → Char → Bool × State) (state : State) :
    cursor.Reads (cursor.consumeWhile accept state).1 (cursor.consumeWhile accept state).2.2 :=
  reads_skip (Text.takeWhileFrom_prefix accept state cursor.ahead)

theorem reads_sliceToEnd (cursor : Cursor) :
    cursor.Reads cursor.sliceToEnd.1 cursor.sliceToEnd.2 where
  source_eq := rfl
  ordered := by
    rw [sliceToEnd, position_moveTo, clip_stop]
    exact cursor.position.clip_le cursor.length
  content_eq := by
    rw [sliceToEnd, remaining_eq_drop, between, position_moveTo, clip_stop, length,
      List.take_length]

/-- A slice that is not backward reads a text. -/
theorem exists_reads_slice {length : Offset} (forward : 0 ≤ length.value) :
    ∃ content moved, cursor.slice length = .ok (content, moved) ∧
      cursor.Reads content moved := by
  have sum : cursor.position + length = cursor.position.forward length.value.toNat := by
    apply Offset.ext
    rw [Offset.value_add, Offset.value_forward, Int.toNat_of_nonneg forward]
  refine ⟨_, _, cursor.slice_eq_ok forward, rfl, ?_, ?_⟩
  · apply Offset.clip_mono
    have below := cursor.position.value_lt
    have least := cursor.position.least_le
    rw [moveBy, position_moveTo, Offset.value_add]
    omega
  · rw [moveBy, position_moveTo, sum, window]

theorem find?_bounds {target : Text} {index : Nat} (found : cursor.find? target = some index) :
    cursor.position.clip cursor.length ≤ index ∧ index ≤ cursor.length := by
  rcases Option.map_eq_some_iff.1 found with ⟨inner, innerFound, rfl⟩
  have inside := Text.indexOf?_le innerFound
  have clipped := cursor.position.clip_le cursor.length
  rw [List.length_drop] at inside
  simp only [length] at clipped inside ⊢
  omega

/-- A text up to a target is read if the target is found, and nothing is read if it is not. -/
theorem reads_getUntil (cursor : Cursor) (target : Text) :
    cursor.Reads ((cursor.getUntil target).1.getD []) (cursor.getUntil target).2 := by
  rw [getUntil]
  cases found : cursor.find? target with
  | none => exact cursor.reads_nothing
  | some index =>
      rcases find?_bounds found with ⟨notBefore, inside⟩
      have place : (Offset.clamp index).clip cursor.length = index := by
        rw [Offset.clip_clamp cursor.length_lt]
        omega
      have reached : (max cursor.position (.clamp index)).clip cursor.length = index := by
        rw [Offset.clip_max, place]
        omega
      refine ⟨rfl, ?_, ?_⟩
      · rw [position_moveTo, reached]
        exact notBefore
      · rw [Option.getD_some, position_moveTo, between, between, place, reached]

theorem source_getUntil (cursor : Cursor) (target : Text) :
    (cursor.getUntil target).2.source = cursor.source :=
  (cursor.reads_getUntil target).source_eq

theorem source_consume (cursor : Cursor) (targets : List Text) :
    (cursor.consume targets).2.source = cursor.source :=
  (cursor.reads_consume targets).source_eq

theorem source_consumeWhile {State : Type} (cursor : Cursor)
    (accept : State → Char → Bool × State) (state : State) :
    (cursor.consumeWhile accept state).2.2.source = cursor.source :=
  (cursor.reads_consumeWhile accept state).source_eq

theorem source_slice {length : Offset} (sliced : cursor.slice length = .ok (content, moved)) :
    moved.source = cursor.source := by
  rw [slice] at sliced
  split at sliced <;> cases sliced
  rfl

theorem source_jumpTo (cursor : Cursor) (target : Text) :
    (cursor.jumpTo target).2.source = cursor.source := by
  rw [jumpTo]
  split <;> rfl

theorem eq_moveTo_of_source_eq (same : moved.source = cursor.source) :
    moved = cursor.moveTo moved.position :=
  Cursor.ext same rfl

end Cursor

/-- An operation that reads a text at the cursor and moves past it. -/
inductive Extraction where
  | slice (length : Offset) (forward : 0 ≤ length.value)
  | sliceToEnd
  | getUntil (target : Text)
  | consume (targets : List Text)
  | consumeWhile {State : Type} (accept : State → Char → Bool × State) (state : State)

namespace Extraction

/-- The text that is read, which is empty where there is none, and the cursor after it. -/
def run (cursor : Cursor) : Extraction → Except BackwardSlice (Text × Cursor)
  | slice length _ => cursor.slice length
  | sliceToEnd => .ok cursor.sliceToEnd
  | getUntil target =>
      let (content?, moved) := cursor.getUntil target
      .ok (content?.getD [], moved)
  | consume targets => .ok (cursor.consume targets)
  | consumeWhile accept state =>
      let (content, _, moved) := cursor.consumeWhile accept state
      .ok (content, moved)

/-- The texts that are read one after the other, and the cursor after them. -/
def runAll (cursor : Cursor) : List Extraction → Except BackwardSlice (List Text × Cursor)
  | [] => .ok ([], cursor)
  | extraction :: rest => do
      let (content, moved) ← extraction.run cursor
      let (contents, final) ← runAll moved rest
      .ok (content :: contents, final)

/-- Every extraction reads a text. -/
theorem exists_reads (extraction : Extraction) (cursor : Cursor) :
    ∃ content moved, extraction.run cursor = .ok (content, moved) ∧
      cursor.Reads content moved := by
  cases extraction with
  | slice length forward => exact Cursor.exists_reads_slice forward
  | sliceToEnd => exact ⟨_, _, rfl, cursor.reads_sliceToEnd⟩
  | getUntil target => exact ⟨_, _, rfl, cursor.reads_getUntil target⟩
  | consume targets => exact ⟨_, _, rfl, cursor.reads_consume targets⟩
  | consumeWhile accept state => exact ⟨_, _, rfl, cursor.reads_consumeWhile accept state⟩

/--
Extractions lose nothing and read nothing twice: the texts that they return one after the other,
followed by what remains, are what remained before them.
-/
theorem runAll_conserves (extractions : List Extraction) (cursor : Cursor) :
    ∃ contents final, runAll cursor extractions = .ok (contents, final) ∧
      contents.flatten ++ final.remaining = cursor.remaining := by
  induction extractions generalizing cursor with
  | nil => exact ⟨[], cursor, rfl, rfl⟩
  | cons extraction rest ih =>
      rcases extraction.exists_reads cursor with ⟨content, moved, ran, reads⟩
      rcases ih moved with ⟨contents, final, restRan, conserved⟩
      refine ⟨content :: contents, final, ?_, ?_⟩
      · rw [runAll, ran]
        simp only [Except.bind, bind, restRan]
      · rw [List.flatten_cons, List.append_assoc, conserved, reads.append_remaining]

end Extraction

end TextCursor
